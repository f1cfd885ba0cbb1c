import ApiStubs.Proofs.NameReading

/-!
# Names in identifier positions

The names that the stubs write in identifier positions are those of the documentation. All are
words, since a name that leaves none is refused; that a word starts with a digit is no reason to
refuse it.

* `StubName`, `Tree.stubNames`: the names that a documentation gives to its stubs;
* `writtenNames_methodLines`, `writtenNames_eventsLines`, `writtenNames_membersLines`,
  `writtenNames_classLines`, `writtenNames_loaderLines`: the names of each kind of entry, put
  together in `writtenNames_stubsLines`;
* `allWords_of_violations_eq_nil`: without violations all are words;
* `AreDigits`, `generateWith_identifiers`: which names are identifiers.
-/

namespace ApiStubs

open Doc Inference Stub Text Name

namespace Stub

/-! ### Lines -/

theorem writtenNames_append (ls ms : List Line) :
    writtenNames (ls ++ ms) = writtenNames ls ++ writtenNames ms :=
  List.flatMap_append

theorem writtenNames_cons (l : Line) (ls : List Line) :
    writtenNames (l :: ls) = namesIn l.text.toList ++ writtenNames ls :=
  List.flatMap_cons

theorem writtenNames_deeper (ls : List Line) :
    writtenNames (ls.map Line.deeper) = writtenNames ls :=
  List.flatMap_map ..

theorem writtenNames_eq_nil {ls : List Line} (h : ∀ l ∈ ls, namesIn l.text.toList = []) :
    writtenNames ls = [] :=
  List.flatMap_eq_nil_iff.2 h

theorem writtenNames_brace : writtenNames [⟨0, "\x7d"⟩] = [] := by decide

/-- Comments have no names. -/
theorem writtenNames_comments {ls : List Line} (h : ∀ l ∈ ls, isComment l.text = true) :
    writtenNames ls = [] :=
  writtenNames_eq_nil fun l hl => namesIn_of_isComment (h l hl)

/-! ### The names of a documentation -/

/-- The words of the functions that manage listeners, in order. -/
def listenerWords : List String :=
  ["addListener", "event", "listener", "once", "event", "listener",
   "removeListener", "event", "listener", "removeAllListeners", "event", "listeners", "event",
   "setMaxListeners", "n", "emit", "event", "args", "on", "event", "listener"]

/-- A name in the stubs, by where it comes from. -/
inductive StubName where
  /-- A word of the functions that manage listeners. -/
  | listener (word : String) (h : word ∈ listenerWords)
  /-- The name of a module, a member, a parameter or the variable of a global object. -/
  | plain (raw : String)
  /-- The function of a global object. -/
  | global (raw : String)
  /-- The function of a class. -/
  | nested (raw : String)
  /-- A class in its container. -/
  | factory (raw : String)

/-- The name as the stubs spell it. -/
def StubName.text : StubName → String
  | listener word _ => word
  | plain raw => Name.identifier raw
  | global raw => Role.global.container raw
  | nested raw => Role.nested.container raw
  | factory raw => Name.className raw

/-- The names in the functions that manage listeners. -/
def listenerNames : List StubName := listenerWords.attach.map fun w => .listener w.1 w.2

end Stub

namespace Doc

/-- The names of a method: its own, and those of its parameters. -/
def Method.stubNames (m : Method) : List StubName :=
  .plain m.name :: (m.signatures.headD {}).positional.map fun p => .plain p.name

/-- The names of the members of a scope, with whatever stands between events and properties. -/
def Scope.memberNames (s : Scope) (between : List StubName) : List StubName :=
  (s.methods.getD []).flatMap Method.stubNames ++ s.events.elim [] (fun _ => listenerNames) ++
    between ++ (s.properties.getD []).map fun p => .plain p.name

/-- The names of a class: its function, its members, and itself in its container. -/
def Scope.classNames (c : Scope) : List StubName :=
  .nested c.name :: (c.memberNames [] ++ [.factory c.name])

/-- The names inside a module or global object. -/
def Module.memberNames (m : Module) : List StubName :=
  m.toScope.memberNames ((m.classes.getD []).flatMap Scope.classNames)

/-- The names of a global object: its variable, its function, and those inside. -/
def Module.globalNames (g : Module) : List StubName :=
  .plain g.name :: .global g.name :: g.memberNames

/-- The names of a module: its function, and those inside. -/
def Module.stubNames (m : Module) : List StubName := .plain m.name :: m.memberNames

/-- The names that the stubs of a documentation write in identifier positions. -/
def Tree.stubNames (tree : Tree) : List StubName :=
  tree.declaredGlobals.flatMap Module.globalNames ++ tree.modules.flatMap Module.stubNames

end Doc

namespace Stub

/-! ### The names of each kind of entry -/

/-- All names are words. -/
def AllWords (names : List StubName) : Prop := ∀ n ∈ names, IsWord n.text

theorem allWords_append {names more : List StubName} :
    AllWords (names ++ more) ↔ AllWords names ∧ AllWords more :=
  List.forall_mem_append

theorem allWords_cons {n : StubName} {names : List StubName} :
    AllWords (n :: names) ↔ IsWord n.text ∧ AllWords names :=
  List.forall_mem_cons

theorem writtenNames_flatMap {α : Type} {f : α → List Line} {g : α → List StubName} {as : List α}
    (h : ∀ a ∈ as, writtenNames (f a) = (g a).map StubName.text) :
    writtenNames (as.flatMap f) = (as.flatMap g).map StubName.text := by
  unfold writtenNames at h ⊢
  rw [List.flatMap_assoc, List.flatMap_congr h, List.map_flatMap]

theorem writtenNames_bodyLines {byHand : String → Option String} (hb : NamelessBodies byHand)
    (m : Method) : writtenNames (bodyLines byHand m) = [] := by
  refine writtenNames_eq_nil fun l hl => ?_
  unfold bodyLines at hl
  cases hcode : byHand m.name with
  | some code =>
    rw [hcode] at hl
    obtain ⟨text, htext, rfl⟩ := List.mem_map.1 hl
    exact hb m.name code hcode text htext
  | none =>
    rw [hcode] at hl
    obtain ⟨target, -, rfl⟩ := List.mem_map.1 hl
    refine namesIn_of_head (c := 'r') ?_ (by decide)
    repeat apply head?_append
    rfl

/-- A method begins with a line that has its name and its parameters. -/
theorem namesIn_methodOpening {m : Method} (h : AllWords m.stubNames) :
    namesIn (functionOpening (Name.identifier m.name) (", ".intercalate m.parameters)).toList =
      Name.identifier m.name :: m.parameters := by
  obtain ⟨hname, hparams⟩ := allWords_cons.1 h
  have hwords : ∀ p ∈ m.parameters, IsWord p := by
    intro p hp
    obtain ⟨q, hq, rfl⟩ := List.mem_map.1 hp
    exact hparams (.plain q.name) (List.mem_map_of_mem hq)
  have hread := namesIn_functionOpening hname hwords (.inl rfl)
  rwa [String.append_empty] at hread

theorem writtenNames_methodLines {byHand : String → Option String} (hb : NamelessBodies byHand)
    {m : Method} (h : AllWords m.stubNames) :
    writtenNames (methodLines byHand m) = m.stubNames.map StubName.text := by
  have hsignatures : writtenNames (m.signatures.flatMap signatureLines) = [] :=
    writtenNames_comments fun _ hl => isComment_of_mem_signatures hl
  rw [methodLines, writtenNames_cons, namesIn_methodOpening h, writtenNames_append,
    writtenNames_deeper, writtenNames_append, writtenNames_append,
    writtenNames_comments fun _ => isComment_of_mem_summaryLines, hsignatures,
    writtenNames_bodyLines hb, writtenNames_brace]
  simp [Method.stubNames, Method.parameters, StubName.text, Function.comp_def]

/-- A function that manages listeners. -/
theorem writtenNames_listenerLines {name text : String} {params comment : List String}
    (hname : IsWord name) (htext : ", ".intercalate params = text)
    (hparams : ∀ p ∈ params, IsWord p) (hcomment : ∀ line ∈ comment, isComment line = true) :
    writtenNames (listenerLines name text comment) = name :: params := by
  subst htext
  unfold listenerLines
  split
  · rw [writtenNames_cons, namesIn_functionOpening hname hparams (.inr rfl)]
    exact List.append_nil _
  · have hread := namesIn_functionOpening hname hparams (.inl rfl)
    rw [String.append_empty] at hread
    have hcomments : writtenNames (comment.map fun text => ⟨1, text⟩) = [] := by
      refine writtenNames_comments fun l hl => ?_
      obtain ⟨text, htext, rfl⟩ := List.mem_map.1 hl
      exact hcomment text htext
    rw [writtenNames_cons, hread, writtenNames_append, hcomments, writtenNames_brace,
      List.append_nil, List.append_nil]

theorem writtenNames_eventsLines (events : List Doc.Event) :
    writtenNames (eventsLines events) = listenerWords := by
  have hfull : ∀ line ∈ eventsComment (events.filter (·.isListable)), isComment line = true :=
    fun _ => isComment_of_mem_eventsComment
  have hnames : ∀ line ∈ eventNamesComment (events.filter (·.isListable)), isComment line = true :=
    fun _ => isComment_of_mem_eventNamesComment
  have hpair {name : String} {comment : List String} (hname : IsWord name)
      (hcomment : ∀ line ∈ comment, isComment line = true) :
      writtenNames (listenerLines name "event, listener" comment) = [name, "event", "listener"] :=
    writtenNames_listenerLines hname rfl (by decide) hcomment
  have hevent {name : String} {comment : List String} (hname : IsWord name)
      (hcomment : ∀ line ∈ comment, isComment line = true) :
      writtenNames (listenerLines name "event" comment) = [name, "event"] :=
    writtenNames_listenerLines hname rfl (by decide) hcomment
  have hcount : writtenNames (listenerLines "setMaxListeners" "n" []) = ["setMaxListeners", "n"] :=
    writtenNames_listenerLines (by decide) rfl (by decide) (by simp)
  have hemit : writtenNames (listenerLines "emit" "event, args"
      (eventsComment (events.filter (·.isListable)))) = ["emit", "event", "args"] :=
    writtenNames_listenerLines (by decide) rfl (by decide) hfull
  simp only [eventsLines, writtenNames_append]
  rw [hpair (show IsWord "addListener" by decide) hfull, hpair (show IsWord "once" by decide) hfull,
    hpair (show IsWord "removeListener" by decide) hnames,
    hevent (show IsWord "removeAllListeners" by decide) hnames,
    hevent (show IsWord "listeners" by decide) hnames, hcount, hemit,
    hpair (show IsWord "on" by decide) hfull]
  rfl

theorem writtenNames_propertyLines (specializer : Option Specializer) (p : Property) :
    writtenNames (propertyLines specializer p) = [Name.identifier p.name] := by
  rw [propertyLines, writtenNames_append,
    writtenNames_comments fun _ => isComment_of_mem_fieldLines, writtenNames_cons,
    namesIn_valueLine]
  rfl

theorem writtenNames_membersLines {byHand : String → Option String} (hb : NamelessBodies byHand)
    {between : List Line} {names : List StubName}
    (hbetween : writtenNames between = names.map StubName.text)
    (specializer : Option Specializer) {s : Scope} (h : AllWords (s.memberNames names)) :
    writtenNames (membersLines byHand between specializer s) =
      (s.memberNames names).map StubName.text := by
  obtain ⟨hrest, -⟩ := allWords_append.1 h
  obtain ⟨hrest, -⟩ := allWords_append.1 hrest
  obtain ⟨hmethods, -⟩ := allWords_append.1 hrest
  have hmethods : writtenNames ((s.methods.getD []).flatMap (methodLines byHand)) =
      ((s.methods.getD []).flatMap Method.stubNames).map StubName.text :=
    writtenNames_flatMap fun m hm =>
      writtenNames_methodLines hb (List.forall_mem_flatMap.1 hmethods m hm)
  have hevents : writtenNames (s.events.elim [] eventsLines) =
      (s.events.elim [] fun _ => listenerNames).map StubName.text := by
    cases s.events with
    | none => rfl
    | some events =>
      rw [Option.elim_some, Option.elim_some, writtenNames_eventsLines]
      simp [listenerNames, StubName.text, Function.comp_def]
  have hproperties : writtenNames ((s.properties.getD []).flatMap (propertyLines specializer)) =
      ((s.properties.getD []).map fun p => .plain p.name).map StubName.text := by
    rw [List.map_eq_flatMap (f := fun p : Property => StubName.plain p.name)]
    exact writtenNames_flatMap fun p _ => writtenNames_propertyLines specializer p
  rw [membersLines, writtenNames_append, writtenNames_append, writtenNames_append,
    writtenNames_append, writtenNames_comments fun _ => isComment_of_mem_summaryLines, hmethods,
    hevents, hbetween, hproperties, Scope.memberNames]
  simp only [List.map_append, List.nil_append]

/-! ### Scopes -/

theorem writtenNames_frameLines {lead name trail : String} {names : List String}
    (hopening : namesIn (lead ++ "function " ++ name ++ "() \x7b").toList = names)
    (body : List Line) :
    writtenNames (frameLines lead name trail body) = names ++ writtenNames body := by
  have hclosing : namesIn ("\x7d" ++ trail).toList = [] :=
    namesIn_of_head (head?_append rfl trail) (by decide)
  rw [frameLines, writtenNames_cons, hopening, writtenNames_append, writtenNames_deeper,
    writtenNames_cons, hclosing]
  simp [writtenNames]

theorem writtenNames_factoryLines {c : Scope} (h : IsWord (Name.className c.name)) :
    writtenNames (factoryLines c) = [Name.className c.name] := by
  have hopening : factoryOpening (Name.className c.name) =
      functionOpening (Name.className c.name) (", ".intercalate []) ++ "" := by
    apply String.toList_injective
    simp [factoryOpening, functionOpening]
  have hreturn : namesIn ("return new _" ++ Name.className c.name ++ "();").toList = [] := by
    refine namesIn_of_head (c := 'r') ?_ (by decide)
    repeat apply head?_append
    rfl
  rw [factoryLines, writtenNames_cons, writtenNames_cons, hopening,
    namesIn_functionOpening h (by simp) (.inl rfl), hreturn, writtenNames_brace]
  rfl

theorem writtenNames_classLines {c : Scope} (h : AllWords c.classNames) :
    writtenNames (classLines c) = c.classNames.map StubName.text := by
  obtain ⟨hname, hrest⟩ := allWords_cons.1 h
  obtain ⟨hmembers, hfactory⟩ := allWords_append.1 hrest
  have hbody : writtenNames (classBody c) = (c.memberNames []).map StubName.text :=
    writtenNames_membersLines namelessBodies_noBody rfl none hmembers
  have hopening : namesIn ("" ++ "function " ++ Role.nested.container c.name ++ "() \x7b").toList =
      [Role.nested.container c.name] := namesIn_classOpening hname
  have hfactory : writtenNames (factoryLines c) = [Name.className c.name] :=
    writtenNames_factoryLines (hfactory (.factory c.name) (by simp))
  rw [classLines, writtenNames_append, writtenNames_frameLines hopening, hbody, writtenNames_cons,
    hfactory, Scope.classNames, List.map_cons, List.map_append]
  rfl

theorem writtenNames_scopeBody (registry : Registry) (role : Role)
    {byHand : String → Option String} (hb : NamelessBodies byHand) {m : Module}
    (h : AllWords m.memberNames) :
    writtenNames (scopeBody registry role byHand m) = m.memberNames.map StubName.text := by
  have hclasses : AllWords ((m.classes.getD []).flatMap Scope.classNames) :=
    (allWords_append.1 (allWords_append.1 h).1).2
  exact writtenNames_membersLines hb (writtenNames_flatMap fun c hc =>
    writtenNames_classLines (List.forall_mem_flatMap.1 hclasses c hc)) _ h

theorem writtenNames_globalLines (registry : Registry) {g : Module} (h : AllWords g.globalNames) :
    writtenNames (globalLines registry g) = g.globalNames.map StubName.text := by
  obtain ⟨hvariable, hrest⟩ := allWords_cons.1 h
  obtain ⟨hname, hmembers⟩ := allWords_cons.1 hrest
  have hopening : namesIn ("var " ++ Name.identifier g.name ++ " = new " ++ "function " ++
      Role.global.container g.name ++ "() \x7b").toList =
        [Name.identifier g.name, Role.global.container g.name] :=
    namesIn_globalOpening hvariable hname
  rw [globalLines, scopeLines, writtenNames_frameLines hopening,
    writtenNames_scopeBody registry .global namelessBodies_noBody hmembers]
  rfl

theorem writtenNames_caseLines (registry : Registry) {m : Module} (h : AllWords m.stubNames) :
    writtenNames (caseLines registry m) = m.stubNames.map StubName.text := by
  obtain ⟨-, hmembers⟩ := allWords_cons.1 h
  have hopening : namesIn ("case \"" ++ moduleLabel m ++ "\": return new " ++ "function " ++
      Role.module.container m.name ++ "() \x7b").toList = [Name.identifier m.name] :=
    namesIn_caseOpening m
  rw [caseLines, scopeLines, writtenNames_frameLines hopening,
    writtenNames_scopeBody registry .module (namelessBodies_handWritten m.name) hmembers]
  rfl

theorem writtenNames_loaderLines (registry : Registry) {modules : List Module}
    (h : AllWords (modules.flatMap Module.stubNames)) :
    writtenNames (loaderLines registry modules) =
      (modules.flatMap Module.stubNames).map StubName.text := by
  have hcache : writtenNames (modules.map cacheLine) = [] := by
    refine writtenNames_eq_nil fun l hl => ?_
    obtain ⟨m, -, rfl⟩ := List.mem_map.1 hl
    refine namesIn_of_head (c := '"') ?_ (by decide)
    repeat apply head?_append
    rfl
  have hcases : writtenNames (modules.flatMap (caseLines registry)) =
      (modules.flatMap Module.stubNames).map StubName.text :=
    writtenNames_flatMap fun m hm =>
      writtenNames_caseLines registry (List.forall_mem_flatMap.1 h m hm)
  have hopening : writtenNames loaderOpening = [] := by decide
  have hmiddle : writtenNames loaderMiddle = [] := by decide
  have hresolver : writtenNames (resolverLines.map (⟨1, ·⟩)) = [] := by
    refine writtenNames_eq_nil fun l hl => ?_
    obtain ⟨text, htext, rfl⟩ := List.mem_map.1 hl
    exact namesIn_of_mem_resolverLines text htext
  have hclosing : writtenNames loaderClosing = [] := by
    rw [loaderClosing, writtenNames_append, writtenNames_append, hresolver]
    decide
  rw [loaderLines_eq, writtenNames_append, writtenNames_append, writtenNames_append,
    writtenNames_append, hopening, hcache, hmiddle, hclosing, inSwitch, writtenNames_deeper,
    writtenNames_deeper, writtenNames_deeper, hcases, List.append_nil, List.append_nil,
    List.append_nil, List.nil_append]

end Stub

theorem writtenNames_stubsLines (registry : Registry) {tree : Tree} (h : AllWords tree.stubNames) :
    writtenNames (stubsLines registry tree) = tree.stubNames.map StubName.text := by
  obtain ⟨hglobals, hmodules⟩ := allWords_append.1 h
  have hglobals : writtenNames (tree.declaredGlobals.flatMap (globalLines registry)) =
      (tree.declaredGlobals.flatMap Module.globalNames).map StubName.text :=
    writtenNames_flatMap fun g hg =>
      writtenNames_globalLines registry (List.forall_mem_flatMap.1 hglobals g hg)
  have hprologue : namesIn prologue.toList = [] := by decide
  rw [stubsLines, writtenNames_cons, writtenNames_append, hprologue, hglobals,
    writtenNames_loaderLines registry hmodules, Tree.stubNames, List.map_append]
  rfl

/-! ### Documentations without violations -/

namespace Stub

theorem isWord_of_nameViolations {container raw : String} (h : nameViolations container raw = []) :
    IsWord (Name.identifier raw) := by
  refine isWord_identifier fun he => ?_
  rw [nameViolations, if_pos he] at h
  cases h

theorem isWord_className {raw : String} (h : Role.nested.nameViolations raw = []) :
    IsWord (Name.className raw) := by
  by_contra hword
  have hnone : Name.classIdentifier? raw = none := if_neg hword
  rw [Role.nameViolations, if_pos hnone] at h
  cases h

theorem allWords_listenerNames : AllWords listenerNames := by
  have hwords : ∀ word ∈ listenerWords, IsWord word := by decide
  intro n hn
  obtain ⟨⟨word, hword⟩, -, rfl⟩ := List.mem_map.1 hn
  exact hwords word hword

theorem allWords_method {container : String} {m : Method} (h : methodViolations container m = []) :
    AllWords m.stubNames := by
  obtain ⟨first, later, hs, hparams⟩ := signatures_ne_nil h
  refine allWords_cons.2 ⟨isWord_of_nameViolations (List.append_eq_nil_iff.1 h).1, ?_⟩
  intro n hn
  obtain ⟨p, hp, rfl⟩ := List.mem_map.1 hn
  rw [hs] at hp
  exact isWord_of_nameViolations (hparams p hp)

theorem allWords_memberNames {container : String} {s : Scope} {vs : List Violation}
    {between : List StubName} (hbetween : AllWords between)
    (h : membersViolations container s vs = []) : AllWords (s.memberNames between) := by
  obtain ⟨hmethods, -, hproperties⟩ := membersViolations_eq_nil_iff.1 h
  refine allWords_append.2 ⟨allWords_append.2 ⟨allWords_append.2 ⟨?_, ?_⟩, hbetween⟩, ?_⟩
  · exact List.forall_mem_flatMap.2 fun m hm => allWords_method (hmethods m hm)
  · cases s.events with
    | none => exact List.forall_mem_nil _
    | some _ => exact allWords_listenerNames
  · intro n hn
    obtain ⟨p, hp, rfl⟩ := List.mem_map.1 hn
    exact isWord_of_nameViolations (hproperties p hp)

theorem allWords_class {c : Scope} (h : classViolations c = []) : AllWords c.classNames := by
  obtain ⟨hname, hmembers⟩ := List.append_eq_nil_iff.1 h
  have hword : IsWord (Name.className c.name) := isWord_className hname
  refine allWords_cons.2 ⟨hword.marked (by decide), allWords_append.2 ⟨?_, ?_⟩⟩
  · exact allWords_memberNames (List.forall_mem_nil _) hmembers
  · exact List.forall_mem_singleton.2 hword

theorem allWords_scope {role : Role} {m : Module} (h : scopeViolations role m = []) :
    AllWords m.memberNames := by
  obtain ⟨-, hmembers⟩ := List.append_eq_nil_iff.1 h
  obtain ⟨-, hclasses, -⟩ := membersViolations_eq_nil_iff.1 hmembers
  refine allWords_memberNames (List.forall_mem_flatMap.2 fun c hc => ?_) hmembers
  exact allWords_class (List.flatMap_eq_nil_iff.1 hclasses c hc)

end Stub

/-- Without violations all names are words. -/
theorem allWords_of_violations_eq_nil {tree : Tree} (h : tree.violations = []) :
    AllWords tree.stubNames := by
  obtain ⟨hglobals, hmodules⟩ := tree.violations_eq_nil_iff.1 h
  refine allWords_append.2 ⟨List.forall_mem_flatMap.2 fun g hg => ?_,
    List.forall_mem_flatMap.2 fun m hm => ?_⟩
  · have hname : IsWord (Name.identifier g.name) :=
      isWord_of_nameViolations (List.append_eq_nil_iff.1 (hglobals g hg)).1
    exact allWords_cons.2 ⟨hname, allWords_cons.2
      ⟨hname.marked (by decide), allWords_scope (hglobals g hg)⟩⟩
  · have hname : IsWord (Name.identifier m.name) :=
      isWord_of_nameViolations (List.append_eq_nil_iff.1 (hmodules m hm)).1
    exact allWords_cons.2 ⟨hname, allWords_scope (hmodules m hm)⟩

/-! ### Digits -/

section Digits

/-- Characters that can be taken for digits: alphanumeric ones without the letters of ASCII. -/
def AreDigits (digit : Char → Bool) : Prop :=
  ∀ c, digit c = true → isAlphanumeric c = true ∧ c.isAlpha = false

variable {digit : Char → Bool}

theorem AreDigits.eq_false_of_isAlpha (hd : AreDigits digit) {c : Char} (hc : c.isAlpha = true) :
    digit c = false := by
  refine Bool.eq_false_iff.2 fun h => ?_
  rw [(hd c h).2] at hc
  cases hc

theorem AreDigits.eq_false_of_not_isNameChar (hd : AreDigits digit) {c : Char}
    (hc : isNameChar c = false) : digit c = false := by
  refine Bool.eq_false_iff.2 fun h => ?_
  rw [isNameChar, (hd c h).1, Bool.true_or] at hc
  cases hc

theorem AreDigits.underscore (hd : AreDigits digit) : digit '_' = false := by
  refine Bool.eq_false_iff.2 fun h => ?_
  have halphanumeric : isAlphanumeric '_' = false := by decide
  rw [(hd '_' h).1] at halphanumeric
  cases halphanumeric

theorem startsWithDigit_of_head {name : String} {c : Char} (h : name.toList.head? = some c)
    (hc : digit c = false) : startsWithDigit digit name = false := by
  rw [startsWithDigit, h, Option.any_some, hc]

/-- What is left of a name starts with a digit if the name does. -/
theorem AreDigits.startsWithDigit_identifier (hd : AreDigits digit) (raw : String) :
    startsWithDigit digit (Name.identifier raw) = startsWithDigit digit raw := by
  -- irregular names start with a letter, and so does what they stand for
  by_cases htls : raw = "tls_(ssl)"
  · subst htls
    rw [startsWithDigit_of_head (c := 't') rfl (hd.eq_false_of_isAlpha rfl),
      startsWithDigit_of_head (c := 't') rfl (hd.eq_false_of_isAlpha rfl)]
  by_cases hevents : raw = "Events"
  · subst hevents
    rw [startsWithDigit_of_head (c := 'e') rfl (hd.eq_false_of_isAlpha rfl),
      startsWithDigit_of_head (c := 'E') rfl (hd.eq_false_of_isAlpha rfl)]
  rw [identifier_of_lookup_eq_none (lookup_irregular htls hevents), nameHead, startsWithDigit,
    startsWithDigit, String.toList_ofList]
  cases raw.toList with
  | nil => rfl
  | cons c s =>
    by_cases hc : isNameChar c = true
    · rw [List.takeWhile_cons_of_pos hc]
      rfl
    · rw [List.takeWhile_cons_of_neg hc]
      exact (hd.eq_false_of_not_isNameChar (Bool.eq_false_iff.2 hc)).symm

/-- The name starts with a digit, by what is documented: words of the stubs themselves do not, nor
do names behind underscores. -/
def Stub.StubName.startsWithDigit (digit : Char → Bool) : StubName → Bool
  | plain raw => Name.startsWithDigit digit raw
  | factory raw => Name.startsWithDigit digit (Name.className raw)
  | _ => false

theorem AreDigits.startsWithDigit_text (hd : AreDigits digit) (n : StubName) :
    startsWithDigit digit n.text = n.startsWithDigit digit := by
  cases n with
  | listener word hword =>
    have hletters : ∀ word ∈ listenerWords, word.toList.head?.any Char.isAlpha = true := by decide
    obtain ⟨c, hc, halpha⟩ := (Option.any_eq_true ..).1 (hletters word hword)
    exact startsWithDigit_of_head hc (hd.eq_false_of_isAlpha halpha)
  | plain raw => exact hd.startsWithDigit_identifier raw
  | global raw => exact startsWithDigit_of_head (head?_append rfl _) hd.underscore
  | nested raw => exact startsWithDigit_of_head (head?_append rfl _) hd.underscore
  | factory raw => rfl

end Digits

/-! ### Which names are identifiers -/

/-- The names that the stubs write in identifier positions are those of the documentation. All are
words, and a documentation that gives a name that is none is refused. Identifiers they are exactly
if none starts with a digit, which is not refused. -/
theorem generateWith_identifiers {digit : Char → Bool} (hd : AreDigits digit) (registry : Registry)
    (options : Options) (tree : Tree) :
    ((∃ n ∈ tree.stubNames, ¬IsWord n.text) →
      ∃ violation, generateWith registry options tree = .error violation) ∧
    ∀ artifacts, generateWith registry options tree = .ok artifacts →
      let lines := (stubsDraft registry tree).lines
      artifacts.stubs = stubsText options.header lines ∧
        writtenNames lines = tree.stubNames.map StubName.text ∧
        (∀ name ∈ writtenNames lines, IsWord name) ∧
        ((∀ name ∈ writtenNames lines, IsIdentifier digit name) ↔
          ∀ n ∈ tree.stubNames, n.startsWithDigit digit = false) := by
  refine ⟨?_, fun artifacts hok => ?_⟩
  · rintro ⟨n, hn, hword⟩
    cases hv : tree.violations with
    | nil => exact absurd (allWords_of_violations_eq_nil hv n hn) hword
    | cons violation _ =>
      exact ⟨violation, (stopsAt_generateWith registry options tree).error_iff.2 (by rw [hv]; rfl)⟩
  · have hnone : tree.violations = [] :=
      (stopsAt_generateWith registry options tree).exists_ok_iff.1 ⟨artifacts, hok⟩
    have hwords : AllWords tree.stubNames := allWords_of_violations_eq_nil hnone
    rw [generateWith_eq_ok hnone] at hok
    obtain rfl := Except.ok.inj hok
    have hlines : writtenNames (stubsDraft registry tree).lines =
        tree.stubNames.map StubName.text := by
      rw [(writes_stubsDraft registry hnone).lines_eq, writtenNames_stubsLines registry hwords]
    refine ⟨?_, hlines, ?_, ?_⟩
    · rw [(writes_stubsDraft registry hnone).lines_eq]
    all_goals rw [hlines, List.forall_mem_map]
    · exact hwords
    · constructor
      · intro h n hn
        rw [← hd.startsWithDigit_text n]
        exact (h n hn).2
      · intro h n hn
        exact ⟨hwords n hn, by rw [hd.startsWithDigit_text n, h n hn]⟩

theorem areDigits_isDigit : AreDigits Char.isDigit := by
  intro c hc
  refine ⟨isAlphanumeric_of_isAlphanum (by rw [Char.isAlphanum, hc, Bool.or_true]), ?_⟩
  have hletters : ∀ n < 58, 48 ≤ n → (Char.ofNat n).isAlpha = false := by decide
  have hrange : (decide (48 ≤ c.val) && decide (c.val ≤ 57)) = true := hc
  simp only [Bool.and_eq_true, decide_eq_true_eq, UInt32.le_iff_toNat_le] at hrange
  have halpha : (Char.ofNat c.toNat).isAlpha = false :=
    hletters c.toNat (Nat.lt_succ_of_le hrange.2) hrange.1
  rwa [Char.ofNat_toNat] at halpha

/-- A module, a class and a global object, with a digit inside some names but in front of none. -/
def namedTree : Tree :=
  { modules :=
      [{ name := "http2", classes := some [{ name := "http2.Agent" }]
         methods := some [{ name := "get", signatures := [{ params := [{ name := "url" }] }] }] }]
    sections := [globalsSection [consoleGlobal]] }

theorem generateWith_identifiers_namedTree :
    AreDigits Char.isDigit ∧ ∃ artifacts, generateWith .empty {} namedTree = .ok artifacts ∧
      ∀ name ∈ writtenNames (stubsDraft .empty namedTree).lines,
        IsIdentifier Char.isDigit name := by
  have hnone : namedTree.violations = [] := by decide
  obtain ⟨artifacts, hok⟩ := (stopsAt_generateWith .empty {} namedTree).exists_ok_iff.2 hnone
  obtain ⟨-, -, -, hiff⟩ :=
    (generateWith_identifiers areDigits_isDigit .empty {} namedTree).2 artifacts hok
  exact ⟨areDigits_isDigit, artifacts, hok, hiff.2 (by decide)⟩

/-- A module whose name starts with a digit. -/
def digitTree : Tree := { modules := [{ name := "3d" }] }

/-- It is not refused, and `function 3d() {` stands in the stubs. -/
theorem generateWith_digitTree :
    ∃ artifacts, generateWith .empty {} digitTree = .ok artifacts ∧
      "3d" ∈ writtenNames (stubsDraft .empty digitTree).lines ∧
      ¬IsIdentifier Char.isDigit "3d" := by
  have hnone : digitTree.violations = [] := by decide
  obtain ⟨artifacts, hok⟩ := (stopsAt_generateWith .empty {} digitTree).exists_ok_iff.2 hnone
  have hdigit : startsWithDigit Char.isDigit "3d" = true := by decide
  refine ⟨artifacts, hok, ?_, fun h => ?_⟩
  · rw [(writes_stubsDraft .empty hnone).lines_eq,
      writtenNames_stubsLines .empty (allWords_of_violations_eq_nil hnone)]
    decide
  · rw [h.2] at hdigit
    cases hdigit

end ApiStubs
