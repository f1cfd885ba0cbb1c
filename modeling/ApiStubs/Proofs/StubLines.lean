import ApiStubs.Proofs.CodeBlocks
import ApiStubs.Proofs.Violations
import Mathlib.Data.List.Basic

/-!
# The lines of a stub

A draft that meets no violation has written all of its lines. Here these lines are listed by the
documentation alone, together with what was noticed on the way.

* `Draft.Writes`: a draft that ends well, with its lines and diagnostics;
* `signatureLines`, `eventsLines`, `methodLines`, `propertyLines`, `membersLines`, `classLines`,
  `scopeLines`, `loaderLines`, `stubsLines`: the lines of each kind of entry;
* `missing?`, `membersNotes`, `scopeNotes`, `stubsNotes`: what is noticed;
* `writes_methodDraft`, `writes_membersDraft`, `writes_classDraft`, `writes_scopeDraft`: an entry
  without violations writes its lines, assembled in `writes_stubsDraft` and `generateWith_eq_ok`.
-/

namespace ApiStubs

open Doc Inference

variable {α : Type}

/-! ### Drafts that end well -/

/-- The draft ends well, with these lines and diagnostics. -/
def Draft.Writes (d : Draft Unit) (lines : List Line) (diagnostics : List Diagnostic) : Prop :=
  d = ⟨lines, diagnostics, .ok ()⟩

theorem Draft.Writes.lines_eq {d : Draft Unit} {lines : List Line} {diagnostics : List Diagnostic}
    (h : d.Writes lines diagnostics) : d.lines = lines := by
  unfold Writes at h
  rw [h]

theorem Draft.Writes.result_eq {d : Draft Unit} {lines : List Line} {diagnostics : List Diagnostic}
    (h : d.Writes lines diagnostics) : d.result = .ok () := by
  unfold Writes at h
  rw [h]

theorem Draft.ofExcept_bind {x : Except Violation α} {a : α} (h : x = .ok a)
    (f : α → Draft Unit) : (Draft.ofExcept x >>= f) = f a := by
  subst h
  exact bind_of_ok rfl

theorem Draft.Writes.bind {d e : Draft Unit} {ls ms : List Line} {ds es : List Diagnostic}
    (hd : d.Writes ls ds) (he : e.Writes ms es) :
    (d >>= fun _ => e).Writes (ls ++ ms) (ds ++ es) := by
  unfold Writes at hd he ⊢
  rw [hd, bind_of_ok rfl, he]

theorem Draft.Writes.nested {d : Draft Unit} {ls : List Line} {ds : List Diagnostic}
    (hd : d.Writes ls ds) : d.nested.Writes (ls.map Line.deeper) ds := by
  unfold Writes at hd ⊢
  rw [hd]
  rfl

theorem Draft.writes_done : (Draft.done ()).Writes [] [] := rfl

theorem Draft.writes_line (text : String) : (Draft.line text).Writes [⟨0, text⟩] [] := rfl

theorem Draft.writes_note (diagnostic : Diagnostic) :
    (Draft.note diagnostic).Writes [] [diagnostic] := rfl

theorem Draft.writes_each {f : α → Draft Unit} {ls : α → List Line} {ds : α → List Diagnostic}
    {as : List α} (h : ∀ a ∈ as, (f a).Writes (ls a) (ds a)) :
    (Draft.each f as).Writes (as.flatMap ls) (as.flatMap ds) := by
  induction as with
  | nil => rfl
  | cons a as ih =>
    have ha : (f a).Writes (ls a) (ds a) := h a (by simp)
    exact ha.bind (ih fun b hb => h b (by simp [hb]))

theorem Draft.writes_each_nil {f : α → Draft Unit} {ls : α → List Line} {as : List α}
    (h : ∀ a ∈ as, (f a).Writes (ls a) []) : (Draft.each f as).Writes (as.flatMap ls) [] := by
  have hw : (Draft.each f as).Writes (as.flatMap ls) (as.flatMap fun _ => []) := writes_each h
  rwa [List.flatMap_eq_nil_iff.2 fun _ _ => rfl] at hw

theorem Draft.writes_lines (as : List α) (text : α → String) :
    (Draft.each (fun a => .line (text a)) as).Writes (as.map fun a => ⟨0, text a⟩) [] := by
  rw [List.map_eq_flatMap]
  exact writes_each_nil fun a _ => writes_line (text a)

namespace Stub

/-! ### Names without violations -/

theorem memberName_eq_ok {container raw : String} (h : nameViolations container raw = []) :
    memberName container raw = .ok (Name.identifier raw) := by
  refine memberName_eq_ok_iff.2 ⟨rfl, ?_⟩
  intro he
  simp [nameViolations, he] at h

theorem className_eq_ok {raw : String} (h : Role.nested.nameViolations raw = []) :
    className raw = .ok (Name.className raw) := by
  have hs := stopsAt_className raw
  rw [h] at hs
  obtain ⟨name, hname⟩ := hs
  have hf : Role.nested.functionName raw = .ok ("_" ++ name) := by
    rw [Role.functionName, hname]
    rfl
  have hc : "_" ++ name = "_" ++ Name.className raw := eq_container_of_functionName hf
  rw [hname, (String.append_right_inj "_").1 hc]

theorem functionName_eq_ok {role : Role} {raw : String} (h : role.nameViolations raw = []) :
    role.functionName raw = .ok (role.container raw) := by
  cases role with
  | module => exact memberName_eq_ok h
  | global =>
    unfold Role.functionName
    rw [memberName_eq_ok h]
    rfl
  | nested =>
    unfold Role.functionName
    rw [className_eq_ok h]
    rfl

theorem parameterNames_eq_ok {container : String} {s : Signature}
    (h : ∀ p ∈ s.positional, nameViolations container p.name = []) :
    parameterNames container s = .ok (s.positional.map fun p => Name.identifier p.name) := by
  unfold parameterNames
  generalize s.positional = ps at h
  induction ps with
  | nil => rfl
  | cons p ps ih =>
    rw [List.mapM_cons, memberName_eq_ok (h p (by simp)), ih fun q hq => h q (by simp [hq])]
    rfl

/-! ### Methods -/

/-- The summary of a description. -/
def summaryLines (desc : Option String) : List Line :=
  desc.toList.map fun d => ⟨0, "/// <summary>" ++ commentText d ++ "</summary>"⟩

/-- What is returned, if anything is documented of it. -/
def returnLines : Option Return → List Line
  | some r => if r.isEmpty then [] else [⟨0, returnLine r⟩]
  | none => []

/-- The comment of a signature. -/
def signatureLines (s : Signature) : List Line :=
  if s.params.isEmpty then []
  else ⟨0, "/// <signature>"⟩ :: (s.params.map (fun p => ⟨0, paramLine p⟩) ++
    returnLines s.returns ++ [⟨0, "/// </signature>"⟩])

/-- The line that makes an object of a class of the same container. -/
def factoryReturn (target : String) : String := "return new this." ++ target ++ "();"

/-- The line that opens a function of a container. -/
def functionOpening (name params : String) : String :=
  "this." ++ name ++ " = function(" ++ params ++ ") \x7b"

theorem head?_functionOpening (name params : String) :
    (functionOpening name params).toList.head? = some 't' := by
  repeat apply head?_append
  rfl

/-- The body of a method: written by hand, a factory, or empty. -/
def bodyLines (byHand : String → Option String) (m : Method) : List Line :=
  match byHand m.name with
  | some code => (textLines code).map (⟨0, ·⟩)
  | none => m.factoryTarget?.toList.map fun target => ⟨0, factoryReturn target⟩

/-- What is noticed about a method: it makes objects of a class that its container does not
declare. -/
def missing? (byHand : String → Option String) (container : String) (classes : List Scope)
    (m : Method) : Option Diagnostic :=
  match byHand m.name, m.factoryTarget? with
  | none, some target =>
    if ∃ c ∈ classes, Name.className c.name = target then none
    else some (.missingFactoryTarget container m.name target)
  | _, _ => none

end Stub

/-- The parameters of the stub of a method. -/
def Doc.Method.parameters (m : Method) : List String :=
  (m.signatures.headD {}).positional.map fun p => Name.identifier p.name

namespace Stub

/-- A method: its comments and its body in the braces of its function. -/
def methodLines (byHand : String → Option String) (m : Method) : List Line :=
  ⟨0, functionOpening (Name.identifier m.name) (", ".intercalate m.parameters)⟩ ::
    ((summaryLines m.desc ++ m.signatures.flatMap signatureLines ++ bodyLines byHand m).map
      Line.deeper ++ [⟨0, "\x7d"⟩])

theorem writes_summary (desc : Option String) : (summary desc).Writes (summaryLines desc) [] := by
  cases desc <;> rfl

theorem writes_returnDraft (r : Option Return) : (returnDraft r).Writes (returnLines r) [] := by
  cases r with
  | none => rfl
  | some r =>
    simp only [returnDraft, returnLines]
    split
    · exact Draft.writes_done
    · exact Draft.writes_line (returnLine r)

theorem writes_signatureDraft (s : Signature) :
    (signatureDraft s).Writes (signatureLines s) [] := by
  unfold signatureDraft signatureLines
  split
  · exact Draft.writes_done
  · have hall := (Draft.writes_line "/// <signature>").bind <|
      (Draft.writes_lines s.params paramLine).bind <|
      (writes_returnDraft s.returns).bind (Draft.writes_line "/// </signature>")
    simpa using hall

theorem writes_factoryDraft (container method : String) (classes : List Scope)
    (target : String) :
    (factoryDraft container method classes target).Writes [⟨0, factoryReturn target⟩]
      (if ∃ c ∈ classes, Name.className c.name = target then none
        else some (.missingFactoryTarget container method target)).toList := by
  unfold factoryDraft
  by_cases h : ∃ c ∈ classes, Name.className c.name = target
  · have hany : (classes.any fun c => Name.className c.name == target) = true := by simpa using h
    rw [if_pos hany, if_pos h]
    exact Draft.writes_done.bind (Draft.writes_line _)
  · have hany : ¬(classes.any fun c => Name.className c.name == target) = true := by simpa using h
    rw [if_neg hany, if_neg h]
    exact (Draft.writes_note _).bind (Draft.writes_line _)

theorem writes_bodyDraft (byHand : String → Option String) (container : String)
    (classes : List Scope) (m : Method) :
    (bodyDraft byHand container classes m).Writes (bodyLines byHand m)
      (missing? byHand container classes m).toList := by
  unfold bodyDraft bodyLines missing?
  cases byHand m.name with
  | some code => rfl
  | none =>
    cases m.factoryTarget? with
    | none => rfl
    | some target => exact writes_factoryDraft container m.name classes target

theorem signatures_ne_nil {container : String} {m : Method}
    (h : methodViolations container m = []) :
    ∃ first later, m.signatures = first :: later ∧
      ∀ p ∈ first.positional, nameViolations container p.name = [] := by
  unfold methodViolations at h
  cases hs : m.signatures with
  | nil => simp [hs] at h
  | cons first later =>
    refine ⟨first, later, rfl, ?_⟩
    simpa [hs] using (List.append_eq_nil_iff.1 h).2

theorem writes_methodDraft {byHand : String → Option String} {container : String}
    {classes : List Scope} {m : Method} (h : methodViolations container m = []) :
    (methodDraft byHand container classes m).Writes (methodLines byHand m)
      (missing? byHand container classes m).toList := by
  -- the draft looks at the first signature only after the name is settled
  obtain ⟨first, later, hs, hp⟩ := signatures_ne_nil h
  have hn : nameViolations container m.name = [] := (List.append_eq_nil_iff.1 h).1
  have hparams : m.parameters = first.positional.map fun p => Name.identifier p.name := by
    rw [Method.parameters, hs]
    rfl
  have hsignatures : (Draft.each signatureDraft m.signatures).Writes
      (m.signatures.flatMap signatureLines) [] :=
    Draft.writes_each_nil fun s _ => writes_signatureDraft s
  have hinner := ((writes_summary m.desc).bind <|
    hsignatures.bind (writes_bodyDraft byHand container classes m)).nested
  have hall := (Draft.writes_line (functionOpening (Name.identifier m.name)
    (", ".intercalate m.parameters))).bind (hinner.bind (Draft.writes_line "\x7d"))
  unfold methodDraft
  rw [Draft.ofExcept_bind (memberName_eq_ok hn)]
  simp only [hs]
  rw [Draft.ofExcept_bind (parameterNames_eq_ok hp), ← hs, ← hparams]
  simpa [methodLines, functionOpening] using hall

/-! ### Events and properties -/

/-- A function that manages listeners. -/
def listenerLines (name params : String) (comment : List String) : List Line :=
  if comment.isEmpty then [⟨0, functionOpening name params ++ " \x7d"⟩]
  else ⟨0, functionOpening name params⟩ ::
    ((comment.map fun text => ⟨1, text⟩) ++ [⟨0, "\x7d"⟩])

/-- The functions that manage the listeners of events. -/
def eventsLines (events : List Doc.Event) : List Line :=
  let full := eventsComment (events.filter (·.isListable))
  let names := eventNamesComment (events.filter (·.isListable))
  listenerLines "addListener" "event, listener" full ++
    listenerLines "once" "event, listener" full ++
    listenerLines "removeListener" "event, listener" names ++
    listenerLines "removeAllListeners" "event" names ++
    listenerLines "listeners" "event" names ++
    listenerLines "setMaxListeners" "n" [] ++
    listenerLines "emit" "event, args" full ++
    listenerLines "on" "event, listener" full

/-- The comment of a property. -/
def fieldLines (p : Property) : List Line :=
  p.desc.toList.map fun d =>
    ⟨0, "/// <field name='" ++ p.name ++ "'>" ++ commentText d ++ "</field>"⟩

/-- The line that gives a property its value. -/
def valueLine (specializer : Option Specializer) (p : Property) : String :=
  "this." ++ Name.identifier p.name ++ " = " ++
    inferDefault p.name (p.desc.getD "") (p.textRaw.getD "") specializer ++ ";"

theorem head?_valueLine (specializer : Option Specializer) (p : Property) :
    (valueLine specializer p).toList.head? = some 't' := by
  repeat apply head?_append
  rfl

/-- A property: its comment and its value. -/
def propertyLines (specializer : Option Specializer) (p : Property) : List Line :=
  fieldLines p ++ [⟨0, valueLine specializer p⟩]

theorem writes_listenerDraft (name params : String) (comment : List String) :
    (listenerDraft name params comment).Writes (listenerLines name params comment) [] := by
  unfold listenerDraft listenerLines
  simp only
  split
  · exact Draft.writes_line _
  · have hall := (Draft.writes_line (functionOpening name params)).bind
      ((Draft.writes_lines comment id).nested.bind (Draft.writes_line "\x7d"))
    simpa [functionOpening, Line.deeper, Function.comp_def] using hall

theorem writes_eventsDraft? (events : Option (List Doc.Event)) :
    (eventsDraft? events).Writes (events.elim [] eventsLines) [] := by
  cases events with
  | none => rfl
  | some events =>
    have listener := writes_listenerDraft
    simp only [eventsDraft?, eventsDraft, Option.elim_some, eventsLines, List.append_assoc]
    exact (listener ..).bind <| (listener ..).bind <| (listener ..).bind <| (listener ..).bind <|
      (listener ..).bind <| (listener ..).bind <| (listener ..).bind (listener ..)

theorem writes_fieldDraft (p : Property) : (fieldDraft p).Writes (fieldLines p) [] := by
  unfold fieldDraft fieldLines
  cases p.desc <;> rfl

theorem writes_propertyDraft {container : String} {specializer : Option Specializer} {p : Property}
    (h : nameViolations container p.name = []) :
    (propertyDraft container specializer p).Writes (propertyLines specializer p) [] := by
  unfold propertyDraft
  rw [Draft.ofExcept_bind (memberName_eq_ok h)]
  exact (writes_fieldDraft p).bind (Draft.writes_line _)

/-! ### Comments -/

theorem isComment_of_mem_summaryLines {desc : Option String} {l : Line}
    (h : l ∈ summaryLines desc) : isComment l.text = true := by
  obtain ⟨d, -, rfl⟩ := List.mem_map.1 h
  repeat apply isComment_append
  decide

theorem isComment_paramLine (p : Param) : isComment (paramLine p) = true := by
  unfold paramLine
  repeat apply isComment_append
  decide

theorem isComment_returnLine (r : Return) : isComment (returnLine r) = true := by
  unfold returnLine
  repeat apply isComment_append
  decide

theorem isComment_of_mem_signatureLines {s : Signature} {l : Line} (h : l ∈ signatureLines s) :
    isComment l.text = true := by
  unfold signatureLines at h
  split at h
  · cases h
  rcases List.mem_cons.1 h with rfl | h
  · decide
  rcases List.mem_append.1 h with h | h
  · rcases List.mem_append.1 h with h | h
    · obtain ⟨p, -, rfl⟩ := List.mem_map.1 h
      exact isComment_paramLine p
    · unfold returnLines at h
      split at h
      · split at h
        · cases h
        · rw [List.mem_singleton.1 h]
          exact isComment_returnLine _
      · cases h
  · rw [List.mem_singleton.1 h]
    decide

theorem isComment_of_mem_signatures {ss : List Signature} {l : Line}
    (h : l ∈ ss.flatMap signatureLines) : isComment l.text = true := by
  obtain ⟨s, -, hl⟩ := List.mem_flatMap.1 h
  exact isComment_of_mem_signatureLines hl

/-- Above its body a method has only comments. -/
theorem isComment_of_mem_methodComments {m : Method} {l : Line}
    (h : l ∈ summaryLines m.desc ++ m.signatures.flatMap signatureLines) :
    isComment l.text = true := by
  rcases List.mem_append.1 h with h | h
  · exact isComment_of_mem_summaryLines h
  · exact isComment_of_mem_signatures h

theorem isComment_eventLine (e : Doc.Event) : isComment (eventLine e) = true := by
  unfold eventLine
  repeat apply isComment_append
  decide

theorem isComment_of_mem_eventsComment {events : List Doc.Event} {text : String}
    (h : text ∈ eventsComment events) : isComment text = true := by
  unfold eventsComment at h
  simp only [List.mem_append, List.mem_cons, List.not_mem_nil, or_false, List.mem_map] at h
  rcases h with ((rfl | rfl) | ⟨e, -, rfl⟩) | rfl
  · decide
  · decide
  · exact isComment_eventLine e
  · decide

theorem isComment_of_mem_eventNamesComment {events : List Doc.Event} {text : String}
    (h : text ∈ eventNamesComment events) : isComment text = true := by
  rw [List.mem_singleton.1 h]
  repeat apply isComment_append
  decide

theorem isComment_of_mem_fieldLines {p : Property} {l : Line} (h : l ∈ fieldLines p) :
    isComment l.text = true := by
  obtain ⟨d, -, rfl⟩ := List.mem_map.1 h
  repeat apply isComment_append
  decide

/-! ### Scopes -/

/-- The members of a scope, with whatever stands between its events and its properties. -/
def membersLines (byHand : String → Option String) (between : List Line)
    (specializer : Option Specializer) (s : Scope) : List Line :=
  summaryLines s.desc ++ (s.methods.getD []).flatMap (methodLines byHand) ++
    s.events.elim [] eventsLines ++ between ++
    (s.properties.getD []).flatMap (propertyLines specializer)

/-- What is noticed in the methods of a scope. -/
def membersNotes (byHand : String → Option String) (container : String) (classes : List Scope)
    (s : Scope) : List Diagnostic :=
  (s.methods.getD []).filterMap (missing? byHand container classes)

theorem membersViolations_eq_nil_iff {container : String} {s : Scope} {between : List Violation} :
    membersViolations container s between = [] ↔
      (∀ m ∈ s.methods.getD [], methodViolations container m = []) ∧ between = [] ∧
        ∀ p ∈ s.properties.getD [], nameViolations container p.name = [] := by
  simp only [membersViolations, List.append_eq_nil_iff, List.flatMap_eq_nil_iff, and_assoc]

theorem writes_membersDraft {between : Draft Unit} {ls : List Line} {ds : List Diagnostic}
    {vs : List Violation} (hb : between.Writes ls ds) {name : String}
    {byHand : String → Option String} {classes : List Scope} {specializer : Option Specializer}
    {s : Scope} (h : membersViolations name s vs = []) :
    (membersDraft name byHand classes between specializer s).Writes
      (membersLines byHand ls specializer s) (membersNotes byHand name classes s ++ ds) := by
  obtain ⟨hm, -, hp⟩ := membersViolations_eq_nil_iff.1 h
  have hmethods : (Draft.each (methodDraft byHand name classes) (s.methods.getD [])).Writes
      ((s.methods.getD []).flatMap (methodLines byHand)) (membersNotes byHand name classes s) := by
    rw [membersNotes, List.filterMap_eq_flatMap_toList]
    exact Draft.writes_each fun m hmem => writes_methodDraft (hm m hmem)
  have hproperties : (Draft.each (propertyDraft name specializer) (s.properties.getD [])).Writes
      ((s.properties.getD []).flatMap (propertyLines specializer)) [] :=
    Draft.writes_each_nil fun p hmem => writes_propertyDraft (hp p hmem)
  have hall := (writes_summary s.desc).bind <| hmethods.bind <|
    (writes_eventsDraft? s.events).bind <| hb.bind hproperties
  simpa [membersDraft, membersLines] using hall

/-- A function around its body. -/
def frameLines (lead name trail : String) (body : List Line) : List Line :=
  ⟨0, lead ++ "function " ++ name ++ "() \x7b"⟩ :: (body.map Line.deeper ++ [⟨0, "\x7d" ++ trail⟩])

theorem writes_frame {body : Draft Unit} {ls : List Line} {ds : List Diagnostic}
    (hb : body.Writes ls ds) (lead name trail : String) :
    (frame lead name trail body).Writes (frameLines lead name trail ls) ds := by
  have hall := (Draft.writes_line (lead ++ "function " ++ name ++ "() \x7b")).bind
    (hb.nested.bind (Draft.writes_line ("\x7d" ++ trail)))
  simpa [frame, frameLines] using hall

/-- The members of a class. -/
def classBody (c : Scope) : List Line := membersLines noBody [] none c

/-- The line that opens the factory of a class. -/
def factoryOpening (name : String) : String := "this." ++ name ++ " = function() \x7b"

theorem head?_factoryOpening (name : String) :
    (factoryOpening name).toList.head? = some 't' := by
  repeat apply head?_append
  rfl

/-- The factory of a class in its container. -/
def factoryLines (c : Scope) : List Line :=
  [⟨0, factoryOpening (Name.className c.name)⟩,
   ⟨1, "return new _" ++ Name.className c.name ++ "();"⟩, ⟨0, "\x7d"⟩]

/-- A class: its function, an empty line, and its factory. -/
def classLines (c : Scope) : List Line :=
  frameLines "" (Role.nested.container c.name) "" (classBody c) ++ ⟨0, ""⟩ :: factoryLines c

/-- What is noticed in a class. It declares no classes itself. -/
def classNotes (c : Scope) : List Diagnostic :=
  membersNotes noBody (Role.nested.container c.name) [] c

theorem writes_classDraft {c : Scope} (h : classViolations c = []) :
    (classDraft c).Writes (classLines c) (classNotes c) := by
  obtain ⟨hn, hm⟩ := List.append_eq_nil_iff.1 h
  have hbody : (membersDraft (Role.nested.container c.name) noBody [] (.done ()) none c).Writes
      (classBody c) (classNotes c ++ []) :=
    writes_membersDraft Draft.writes_done hm
  have hall := (writes_frame hbody "" (Role.nested.container c.name) "").bind <|
    (Draft.writes_line "").bind <|
    (Draft.writes_line (factoryOpening (Name.className c.name))).bind <|
    (Draft.writes_line ("return new _" ++ Name.className c.name ++ "();")).nested.bind
      (Draft.writes_line "\x7d")
  unfold classDraft
  rw [Draft.ofExcept_bind (className_eq_ok hn), Draft.ofExcept_bind (functionName_eq_ok hn)]
  simpa [classLines, factoryLines, factoryOpening, Line.deeper] using hall

/-- The members of a module or global object. -/
def scopeBody (registry : Registry) (role : Role) (byHand : String → Option String)
    (m : Module) : List Line :=
  membersLines byHand ((m.classes.getD []).flatMap classLines)
    (registry.get? (role.container m.name)) m.toScope

/-- A module or global object. -/
def scopeLines (registry : Registry) (role : Role) (byHand : String → Option String)
    (lead trail : String) (m : Module) : List Line :=
  frameLines lead (role.container m.name) trail (scopeBody registry role byHand m)

/-- What is noticed in a module or global object, and after it in its classes. -/
def scopeNotes (role : Role) (byHand : String → Option String) (m : Module) : List Diagnostic :=
  membersNotes byHand (role.container m.name) (m.classes.getD []) m.toScope ++
    (m.classes.getD []).flatMap classNotes

theorem writes_scopeDraft {registry : Registry} {role : Role} {byHand : String → Option String}
    {lead trail : String} {m : Module} (h : scopeViolations role m = []) :
    (scopeDraft registry role byHand lead trail m).Writes
      (scopeLines registry role byHand lead trail m) (scopeNotes role byHand m) := by
  obtain ⟨hn, hm⟩ := List.append_eq_nil_iff.1 h
  have hc : ∀ c ∈ m.classes.getD [], classViolations c = [] :=
    List.flatMap_eq_nil_iff.1 (membersViolations_eq_nil_iff.1 hm).2.1
  have hclasses : (Draft.each classDraft (m.classes.getD [])).Writes
      ((m.classes.getD []).flatMap classLines) ((m.classes.getD []).flatMap classNotes) :=
    Draft.writes_each fun c hmem => writes_classDraft (hc c hmem)
  unfold scopeDraft
  rw [Draft.ofExcept_bind (functionName_eq_ok hn)]
  exact writes_frame (writes_membersDraft hclasses hm) lead (role.container m.name) trail

/-- The declaration of a global object. -/
def globalLines (registry : Registry) (g : Module) : List Line :=
  scopeLines registry .global noBody ("var " ++ Name.identifier g.name ++ " = new ") ";" g

theorem writes_globalDraft {registry : Registry} {g : Module}
    (h : scopeViolations .global g = []) :
    (globalDraft registry g).Writes (globalLines registry g) (scopeNotes .global noBody g) := by
  have hn : nameViolations "" g.name = [] := (List.append_eq_nil_iff.1 h).1
  unfold globalDraft
  rw [Draft.ofExcept_bind (memberName_eq_ok hn)]
  exact writes_scopeDraft h

/-! ### The loader -/

/-- The cache with an entry for every module. -/
def cacheLines (modules : List Module) : List Line :=
  ⟨0, "var cache = \x7b"⟩ ::
    ((modules.map fun m => ⟨1, "\"" ++ moduleLabel m ++ "\": null,"⟩) ++ [⟨0, "\x7d"⟩])

/-- The case of a module in the loader. -/
def caseLines (registry : Registry) (m : Module) : List Line :=
  scopeLines registry .module (handWritten m.name) ("case \"" ++ moduleLabel m ++ "\": return new ")
    ";" m

/-- The function that makes a module by its name. -/
def dispatcherLines (registry : Registry) (modules : List Module) : List Line :=
  ⟨0, "function make_module(module_name) \x7b"⟩ :: ((⟨0, "switch(module_name) \x7b"⟩ ::
    ((modules.flatMap (caseLines registry)).map Line.deeper ++ [⟨0, "\x7d"⟩])).map Line.deeper ++
      [⟨0, "\x7d"⟩])

/-- The loader of the modules. -/
def loaderLines (registry : Registry) (modules : List Module) : List Line :=
  ⟨0, loaderName ++ " = function () \x7b"⟩ ::
    ((⟨0, "var require_count = 0;"⟩ :: ⟨0, "var require_depth = 0;"⟩ ::
      ⟨0, "var max_require_depth = " ++ maxRequireDepth.repr ++ ";"⟩ ::
        (cacheLines modules ++ dispatcherLines registry modules ++
          resolverLines.map (⟨0, ·⟩) ++ [⟨0, "return f;"⟩])).map Line.deeper ++ [⟨0, "\x7d();"⟩])

/-- What is noticed in the modules. -/
def modulesNotes (modules : List Module) : List Diagnostic :=
  modules.flatMap fun m => scopeNotes .module (handWritten m.name) m

theorem writes_cacheDraft (modules : List Module) :
    (cacheDraft modules).Writes (cacheLines modules) [] := by
  have hentries :=
    Draft.writes_lines modules fun m => "\"" ++ moduleLabel m ++ "\": null,"
  have hall := (Draft.writes_line "var cache = \x7b").bind
    (hentries.nested.bind (Draft.writes_line "\x7d"))
  simpa [cacheDraft, cacheLines, Line.deeper, Function.comp_def] using hall

theorem writes_dispatcherDraft (registry : Registry) {modules : List Module}
    (h : ∀ m ∈ modules, scopeViolations .module m = []) :
    (dispatcherDraft registry modules).Writes (dispatcherLines registry modules)
      (modulesNotes modules) := by
  have hcases : (Draft.each (caseDraft registry) modules).Writes
      (modules.flatMap (caseLines registry)) (modulesNotes modules) :=
    Draft.writes_each fun m hm => writes_scopeDraft (h m hm)
  have hswitch := ((Draft.writes_line "switch(module_name) \x7b").bind
    (hcases.nested.bind (Draft.writes_line "\x7d"))).nested
  have hall := (Draft.writes_line "function make_module(module_name) \x7b").bind
    (hswitch.bind (Draft.writes_line "\x7d"))
  simpa [dispatcherDraft, dispatcherLines] using hall

theorem writes_loaderDraft (registry : Registry) {modules : List Module}
    (h : ∀ m ∈ modules, scopeViolations .module m = []) :
    (loaderDraft registry modules).Writes (loaderLines registry modules)
      (modulesNotes modules) := by
  have hinner := ((Draft.writes_line "var require_count = 0;").bind <|
    (Draft.writes_line "var require_depth = 0;").bind <|
    (Draft.writes_line ("var max_require_depth = " ++ maxRequireDepth.repr ++ ";")).bind <|
    (writes_cacheDraft modules).bind <| (writes_dispatcherDraft registry h).bind <|
    (Draft.writes_lines resolverLines id).bind (Draft.writes_line "return f;")).nested
  have hall := (Draft.writes_line (loaderName ++ " = function () \x7b")).bind
    (hinner.bind (Draft.writes_line "\x7d();"))
  simpa [loaderDraft, loaderLines] using hall

end Stub

/-! ### The whole documentation -/

/-- The lines of the stubs of a documentation. -/
def stubsLines (registry : Registry) (tree : Tree) : List Line :=
  ⟨0, prologue⟩ :: (tree.declaredGlobals.flatMap (Stub.globalLines registry) ++
    Stub.loaderLines registry tree.modules)

/-- What is noticed in the stubs of a documentation. -/
def stubsNotes (tree : Tree) : List Diagnostic :=
  tree.declaredGlobals.flatMap (Stub.scopeNotes .global Stub.noBody) ++
    Stub.modulesNotes tree.modules

theorem writes_stubsDraft (registry : Registry) {tree : Tree} (h : tree.violations = []) :
    (stubsDraft registry tree).Writes (stubsLines registry tree) (stubsNotes tree) := by
  obtain ⟨hg, hm⟩ := tree.violations_eq_nil_iff.1 h
  have hglobals : (Draft.each (Stub.globalDraft registry) tree.declaredGlobals).Writes
      (tree.declaredGlobals.flatMap (Stub.globalLines registry))
      (tree.declaredGlobals.flatMap (Stub.scopeNotes .global Stub.noBody)) :=
    Draft.writes_each fun g hmem => Stub.writes_globalDraft (hg g hmem)
  have hall := (Draft.writes_line prologue).bind
    (hglobals.bind (Stub.writes_loaderDraft registry hm))
  simpa [stubsDraft, stubsLines, stubsNotes] using hall

/-- The artifacts of a documentation without violations. -/
theorem generateWith_eq_ok {registry : Registry} {options : Options} {tree : Tree}
    (h : tree.violations = []) :
    generateWith registry options tree =
      .ok ⟨stubsText options.header (stubsLines registry tree),
        (DocTable.emit options.table tree.modules).1,
        stubsNotes tree ++ (DocTable.emit options.table tree.modules).2⟩ := by
  unfold generateWith
  rw [show stubsDraft registry tree = _ from writes_stubsDraft registry h]

end ApiStubs
