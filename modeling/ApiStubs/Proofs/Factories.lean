import ApiStubs.Proofs.StubLines

/-!
# Uses of factories

A factory method makes its object through a factory of the same container. Where nothing was
noticed about such a use, the factory is there: what the generation looks for among the documented
classes is what it writes for them. Equal lines may stand in several containers, so a use is known
by its place among the lines, with the function of its own container around it.

* `Container`, `Doc.Tree.containers`: the documented scopes in the order of writing;
* `Container.notes`: what is noticed about the methods of a container;
* `Container.lines_draft`: the lines of a container without violations;
* `UsesNone`: lines that make no object by a factory;
* `Container.Holds`: a place in the body of a container;
* `Answered`: at every place where a factory is used, its own container answers for it: it is
  noticed, or the factory stands in the body of that container;
* `EachUse`: a property of the places of all uses, for lines that are put together;
* `eachUse_membersLines`, `answered_stubsLines`: the uses in a container, and in all stubs.
-/

namespace ApiStubs

open Doc Inference Stub

/-! ### Containers -/

/-- A documented scope, with what it is and the classes it declares. -/
structure Container where
  role : Role
  scope : Scope
  classes : List Scope := []

namespace Container

/-- The function that the container becomes. -/
def name (c : Container) : String := c.role.container c.scope.name

/-- The bodies written by hand for methods of the container. -/
def byHand (c : Container) : String → Option String :=
  match c.role with
  | .module => handWritten c.scope.name
  | _ => noBody

/-- What is known of properties of the container. -/
def specializer (registry : Registry) (c : Container) : Option Specializer :=
  match c.role with
  | .nested => none
  | _ => registry.get? c.name

/-- The members of the container as they are drafted. -/
def draft (registry : Registry) (c : Container) : Draft Unit :=
  membersDraft c.name c.byHand c.classes (Draft.each classDraft c.classes) (c.specializer registry)
    c.scope

/-- The body of the container at a depth. -/
def body (registry : Registry) (depth : Nat) (c : Container) : List Line :=
  (c.draft registry).lines.map fun l => ⟨l.depth + depth, l.text⟩

/-- What is noticed about the methods of the container. -/
def notes (c : Container) : List Diagnostic :=
  membersNotes c.byHand c.name c.classes c.scope

end Container

/-- A class. It declares no classes itself. -/
def Container.ofClass (c : Scope) : Container := { role := .nested, scope := c }

/-- A module or global object. -/
def Doc.Module.container (role : Role) (m : Module) : Container :=
  { role := role, scope := m.toScope, classes := m.classes.getD [] }

/-- A module or global object, and its classes. -/
def Doc.Module.containers (role : Role) (m : Module) : List Container :=
  m.container role :: (m.classes.getD []).map Container.ofClass

/-- The containers of a documentation: declared globals, then modules, each before its classes. -/
def Doc.Tree.containers (tree : Tree) : List Container :=
  tree.declaredGlobals.flatMap (Module.containers .global) ++
    tree.modules.flatMap (Module.containers .module)

/-- A factory method is called `create` and the name of its class. -/
theorem Doc.Method.factoryTarget?_eq_some_iff {m : Method} {target : String} :
    m.factoryTarget? = some target ↔ target ≠ "" ∧ m.name = "create" ++ target := by
  unfold factoryTarget?
  constructor
  · intro h
    split at h
    · next hp =>
      simp only [Option.ite_none_left_eq_some, Option.some.injEq] at h
      obtain ⟨hne, rfl⟩ := h
      obtain ⟨rest, hrest⟩ := List.isPrefixOf_iff_prefix.1 hp
      rw [← hrest, List.drop_left] at hne ⊢
      refine ⟨?_, ?_⟩
      · intro he
        simp_all
      · apply String.toList_injective
        rw [String.toList_append, ← hrest]
        show factoryWord ++ rest = factoryWord ++ (String.ofList rest).toList
        rw [String.toList_ofList]
    · cases h
  · rintro ⟨hne, hname⟩
    have hlist : m.name.toList = factoryWord ++ target.toList := by
      rw [hname, String.toList_append]
      rfl
    rw [hlist, if_pos (List.isPrefixOf_iff_prefix.2 (List.prefix_append ..)), List.drop_left]
    have : target.toList.isEmpty = false := by simpa using hne
    simp [this]

/-! ### Lines that use no factory -/

/-- No line makes an object by a factory. -/
def UsesNone (lines : List Line) : Prop := ∀ l ∈ lines, ∀ target, l.text ≠ factoryReturn target

theorem factoryReturn_injective {target other : String}
    (h : factoryReturn target = factoryReturn other) : target = other := by
  unfold factoryReturn at h
  exact (String.append_right_inj _).1 ((String.append_left_inj _).1 h)

theorem ne_factoryReturn {text : String} (h : factoryMark.isPrefixOf text.toList = false)
    (target : String) : text ≠ factoryReturn target := by
  rintro rfl
  have hmark : factoryMark <+: (factoryReturn target).toList := by
    unfold factoryReturn
    rw [String.toList_append, String.toList_append, List.append_assoc]
    exact List.IsPrefix.trans (by decide) (List.prefix_append ..)
  rw [List.isPrefixOf_iff_prefix.2 hmark] at h
  cases h

theorem isPrefixOf_of_head {text : String} {c : Char} (h : text.toList.head? = some c)
    (hc : c ≠ 'r') : factoryMark.isPrefixOf text.toList = false := by
  obtain ⟨s, hs⟩ := List.head?_eq_some_iff.1 h
  rw [hs]
  simp [factoryMark, List.isPrefixOf, Ne.symm hc]

theorem ne_factoryReturn_of_head {text : String} {c : Char} (h : text.toList.head? = some c)
    (hc : c ≠ 'r') (target : String) : text ≠ factoryReturn target :=
  ne_factoryReturn (isPrefixOf_of_head h hc) target

theorem ne_factoryReturn_of_getLast? {text : String} {c : Char}
    (h : text.toList.getLast? = some c) (hc : c ≠ ';') (target : String) :
    text ≠ factoryReturn target := by
  rintro rfl
  have hlast : (factoryReturn target).toList.getLast? = some ';' := getLast?_append rfl _
  exact hc (Option.some.inj (h.symm.trans hlast))

theorem usesNone_nil : UsesNone [] := by
  intro l hl
  cases hl

theorem UsesNone.append {ls ms : List Line} (hl : UsesNone ls) (hm : UsesNone ms) :
    UsesNone (ls ++ ms) := by
  intro l h
  rcases List.mem_append.1 h with h | h
  · exact hl l h
  · exact hm l h

theorem UsesNone.cons {l : Line} {lines : List Line} (hl : ∀ target, l.text ≠ factoryReturn target)
    (h : UsesNone lines) : UsesNone (l :: lines) := by
  intro k hk
  rcases List.mem_cons.1 hk with rfl | hk
  · exact hl
  · exact h k hk

theorem usesNone_comments {lines : List Line} (h : ∀ l ∈ lines, isComment l.text = true) :
    UsesNone lines := by
  intro l hl
  obtain ⟨rest, hrest⟩ := List.isPrefixOf_iff_prefix.1 (h l hl)
  refine ne_factoryReturn_of_head (c := '/') ?_ (by decide)
  rw [← hrest]
  rfl

theorem usesNone_texts {texts : List String}
    (h : ∀ text ∈ texts, factoryMark.isPrefixOf text.toList = false) :
    UsesNone (texts.map (⟨0, ·⟩)) := by
  intro l hl
  obtain ⟨text, ht, rfl⟩ := List.mem_map.1 hl
  exact ne_factoryReturn (h text ht)

theorem usesNone_listenerLines (name params : String) {comment : List String}
    (h : ∀ text ∈ comment, isComment text = true) :
    UsesNone (listenerLines name params comment) := by
  have hopen := head?_functionOpening name params
  unfold listenerLines
  split
  · exact .cons (ne_factoryReturn_of_head (head?_append hopen _) (by decide)) usesNone_nil
  · refine .cons (ne_factoryReturn_of_head hopen (by decide)) (.append (usesNone_comments ?_) ?_)
    · intro l hl
      obtain ⟨text, ht, rfl⟩ := List.mem_map.1 hl
      exact h text ht
    · exact .cons (ne_factoryReturn_of_head (c := '\x7d') rfl (by decide)) usesNone_nil

theorem usesNone_eventsLines (events : List Doc.Event) : UsesNone (eventsLines events) := by
  unfold eventsLines
  generalize events.filter (·.isListable) = listed
  have hfull (name params : String) :
      UsesNone (listenerLines name params (eventsComment listed)) :=
    usesNone_listenerLines name params fun _ => isComment_of_mem_eventsComment
  have hnames (name params : String) :
      UsesNone (listenerLines name params (eventNamesComment listed)) :=
    usesNone_listenerLines name params fun _ => isComment_of_mem_eventNamesComment
  have hnone (name params : String) : UsesNone (listenerLines name params []) :=
    usesNone_listenerLines name params fun _ h => nomatch h
  exact .append (.append (.append (.append (.append (.append (.append (hfull _ _) (hfull _ _))
    (hnames _ _)) (hnames _ _)) (hnames _ _)) (hnone _ _)) (hfull _ _)) (hfull _ _)

theorem usesNone_propertyLines (specializer : Option Specializer) (p : Property) :
    UsesNone (propertyLines specializer p) := by
  unfold propertyLines
  exact .append (usesNone_comments fun _ => isComment_of_mem_fieldLines)
    (.cons (ne_factoryReturn_of_head (head?_valueLine _ _) (by decide)) usesNone_nil)

/-! ### Uses of factories -/

/-- The line between `pre` and `post` stands in the body of the container. Around the body are the
lines that open and close the function of the container. -/
def Container.Holds (registry : Registry) (c : Container) (depth : Nat) (pre : List Line) (l : Line)
    (post : List Line) : Prop :=
  ∃ front lead before behind trail back,
    pre = front ++ ⟨depth, lead ++ "function " ++ c.name ++ "() \x7b"⟩ :: before ∧
    post = behind ++ ⟨depth, "\x7d" ++ trail⟩ :: back ∧
    before ++ l :: behind = c.body registry (depth + 1)

/-- The container, with its members at a depth, answers for a factory: its absence is noticed, or it
is one of the members. -/
def Container.Answers (registry : Registry) (c : Container) (depth : Nat) (target : String) :
    Prop :=
  .missingFactoryTarget c.name ("create" ++ target) target ∈ c.notes ∨
    ⟨depth, factoryOpening target⟩ ∈ c.body registry depth

/-- The line between `pre` and `post` is in a method of one of the containers, which answers for the
factory. A method of a container is two levels below the function of this container, so that no
other container around the line is meant. -/
def AnsweredAt (registry : Registry) (containers : List Container) (pre : List Line) (l : Line)
    (post : List Line) (target : String) : Prop :=
  ∃ c ∈ containers, ∃ depth, c.Holds registry depth pre l post ∧ l.depth = depth + 2 ∧
    c.Answers registry (depth + 1) target

/-- Wherever the lines use a factory, the container of that place answers for it. -/
def Answered (registry : Registry) (containers : List Container) (lines : List Line) : Prop :=
  ∀ pre l post target, lines = pre ++ l :: post → l.text = factoryReturn target →
    AnsweredAt registry containers pre l post target

/-! ### Places among lines -/

/-- A place in two lists is one in the first or one in the second. -/
theorem splits_append {α : Type} {as bs pre post : List α} {a : α}
    (h : as ++ bs = pre ++ a :: post) :
    (∃ mid, as = pre ++ a :: mid ∧ post = mid ++ bs) ∨
      ∃ mid, pre = as ++ mid ∧ bs = mid ++ a :: post := by
  rcases List.append_eq_append_iff.1 h with ⟨mid, hpre, hbs⟩ | ⟨mid, has, hpost⟩
  · exact .inr ⟨mid, hpre, hbs⟩
  · cases mid with
    | nil => exact .inr ⟨[], by rw [has, List.append_nil, List.append_nil], hpost.symm⟩
    | cons b mid =>
      obtain ⟨rfl, rfl⟩ := List.cons.inj hpost
      exact .inl ⟨mid, has, rfl⟩

/-- A place between the first and the last. -/
theorem splits_between {α : Type} {first last a : α} {as pre post : List α}
    (h : first :: (as ++ [last]) = pre ++ a :: post) (hfirst : a ≠ first) (hlast : a ≠ last) :
    ∃ before behind, as = before ++ a :: behind ∧ pre = first :: before ∧
      post = behind ++ [last] := by
  cases pre with
  | nil => exact absurd (List.cons.inj h).1.symm hfirst
  | cons b pre =>
    obtain ⟨rfl, hrest⟩ := List.cons.inj h
    rcases splits_append hrest with ⟨mid, has, rfl⟩ | ⟨mid, -, hend⟩
    · exact ⟨pre, mid, has, rfl, rfl⟩
    · have hmem : a ∈ [last] := by rw [hend]; simp
      exact absurd (List.mem_singleton.1 hmem) hlast

/-- A place in changed lines is one in the lines. -/
theorem splits_map {α β : Type} {f : α → β} {as : List α} {pre post : List β} {b : β}
    (h : as.map f = pre ++ b :: post) :
    ∃ before a behind, as = before ++ a :: behind ∧ pre = before.map f ∧ b = f a ∧
      post = behind.map f := by
  obtain ⟨before, rest, rfl, rfl, hrest⟩ := List.map_eq_append_iff.1 h
  obtain ⟨a, behind, rfl, rfl, rfl⟩ := List.map_eq_cons_iff.1 hrest
  exact ⟨before, a, behind, rfl, rfl, rfl, rfl⟩

/-- Every use of a factory in the lines has the property of its place. -/
def EachUse (P : List Line → Line → List Line → String → Prop) (lines : List Line) : Prop :=
  ∀ pre l post target, lines = pre ++ l :: post → l.text = factoryReturn target →
    P pre l post target

/-- The property of a place stays when more lines are put around it. -/
def StaysWithin (P : List Line → Line → List Line → String → Prop) : Prop :=
  ∀ front back pre l post target, P pre l post target → P (front ++ pre) l (post ++ back) target

section EachUse

variable {P Q : List Line → Line → List Line → String → Prop} {ls ms : List Line}

theorem UsesNone.eachUse (h : UsesNone ls) : EachUse P ls := by
  intro pre l post target hplace ht
  exact absurd ht (h l (by simp [hplace]) target)

theorem EachUse.mono (h : EachUse P ls)
    (hpq : ∀ pre l post target, P pre l post target → Q pre l post target) : EachUse Q ls := by
  intro pre l post target hplace ht
  exact hpq _ _ _ _ (h pre l post target hplace ht)

theorem EachUse.append (hP : StaysWithin P) (hl : EachUse P ls) (hm : EachUse P ms) :
    EachUse P (ls ++ ms) := by
  intro pre l post target hplace ht
  rcases splits_append hplace with ⟨mid, hls, rfl⟩ | ⟨mid, rfl, hms⟩
  · exact hP [] ms _ _ _ _ (hl pre l mid target hls ht)
  · have hin := hP ls [] _ _ _ _ (hm mid l post target hms ht)
    rwa [List.append_nil] at hin

end EachUse

section Answered

variable {registry : Registry} {containers : List Container} {ls ms pre post : List Line} {l : Line}
  {target : String}

theorem Container.body_succ (registry : Registry) (depth : Nat) (c : Container) :
    c.body registry (depth + 1) = (c.body registry depth).map Line.deeper := by
  simp [body, Line.deeper, Nat.add_assoc]

theorem Container.Answers.deeper {c : Container} {depth : Nat}
    (h : c.Answers registry depth target) : c.Answers registry (depth + 1) target := by
  refine h.imp_right fun hmem => ?_
  rw [body_succ]
  exact List.mem_map_of_mem (f := Line.deeper) hmem

theorem staysWithin_answeredAt : StaysWithin (AnsweredAt registry containers) := by
  rintro front' back' pre l post target ⟨c, hc, depth, hholds, hrest⟩
  obtain ⟨front, lead, before, behind, trail, back, rfl, rfl, hbody⟩ := hholds
  exact ⟨c, hc, depth, ⟨front' ++ front, lead, before, behind, trail, back ++ back',
    by simp, by simp, hbody⟩, hrest⟩

theorem AnsweredAt.deeper (h : AnsweredAt registry containers pre l post target) :
    AnsweredAt registry containers (pre.map Line.deeper) l.deeper (post.map Line.deeper)
      target := by
  obtain ⟨c, hc, depth, ⟨front, lead, before, behind, trail, back, rfl, rfl, hbody⟩, hdepth,
    hanswers⟩ := h
  refine ⟨c, hc, depth + 1, ⟨front.map Line.deeper, lead, before.map Line.deeper,
    behind.map Line.deeper, trail, back.map Line.deeper, ?_, ?_, ?_⟩, ?_, hanswers.deeper⟩
  · simp [Line.deeper]
  · simp [Line.deeper]
  · rw [Container.body_succ, ← hbody, List.map_append, List.map_cons]
  · rw [Line.deeper, hdepth]

theorem Answered.append (hl : Answered registry containers ls)
    (hm : Answered registry containers ms) : Answered registry containers (ls ++ ms) :=
  EachUse.append staysWithin_answeredAt hl hm

theorem UsesNone.answered (h : UsesNone ls) : Answered registry containers ls := h.eachUse

theorem Answered.cons (hl : ∀ target, l.text ≠ factoryReturn target)
    (h : Answered registry containers ls) : Answered registry containers (l :: ls) :=
  .append (UsesNone.cons hl usesNone_nil).answered h

theorem Answered.deeper (h : Answered registry containers ls) :
    Answered registry containers (ls.map Line.deeper) := by
  intro pre l post target hplace ht
  obtain ⟨before, k, behind, rfl, rfl, rfl, rfl⟩ := splits_map hplace
  exact (h before k behind target rfl ht).deeper

theorem Answered.flatMap {α : Type} {f : α → List Line} {as : List α}
    (h : ∀ a ∈ as, Answered registry containers (f a)) :
    Answered registry containers (as.flatMap f) := by
  induction as with
  | nil => exact usesNone_nil.answered
  | cons a as ih =>
    rw [List.flatMap_cons]
    exact .append (h a (by simp)) (ih fun b hb => h b (by simp [hb]))

/-! ### The body of a container -/

/-- The use is in a method of the container itself, whose body this is, or else in a container
within it. -/
def OwnOrAnswered (registry : Registry) (containers : List Container) (c : Container)
    (pre : List Line) (l : Line) (post : List Line) (target : String) : Prop :=
  (l.depth = 1 ∧ c.Answers registry 0 target) ∨ AnsweredAt registry containers pre l post target

theorem staysWithin_ownOrAnswered {c : Container} :
    StaysWithin (OwnOrAnswered registry containers c) := by
  intro front back pre l post target h
  exact h.imp_right (staysWithin_answeredAt front back pre l post target)

/-- The function of a container is around the uses in its body. -/
theorem answered_frameLines {c : Container} (hc : c ∈ containers)
    (h : EachUse (OwnOrAnswered registry containers c) (c.body registry 0)) (lead trail : String) :
    Answered registry containers (frameLines lead c.name trail (c.body registry 0)) := by
  intro pre l post target hplace ht
  -- the first line ends with a brace and the last one begins with one, so that neither is the use
  have hopening : l ≠ ⟨0, lead ++ "function " ++ c.name ++ "() \x7b"⟩ := by
    rintro rfl
    exact ne_factoryReturn_of_getLast? (getLast?_append rfl _) (by decide) target ht
  have hclosing : l ≠ ⟨0, "\x7d" ++ trail⟩ := by
    rintro rfl
    exact ne_factoryReturn_of_head (head?_append rfl _) (by decide) target ht
  obtain ⟨pre, post, hbody, rfl, rfl⟩ := splits_between hplace hopening hclosing
  obtain ⟨before, k, behind, hinner, rfl, rfl, rfl⟩ := splits_map hbody
  rcases h before k behind target hinner ht with ⟨hdepth, hanswers⟩ | hanswered
  · refine ⟨c, hc, 0, ⟨[], lead, _, _, trail, [], rfl, rfl, ?_⟩, ?_, hanswers.deeper⟩
    · rw [Container.body_succ, hinner, List.map_append, List.map_cons]
    · rw [Line.deeper, hdepth]
  · exact staysWithin_answeredAt [_] [_] _ _ _ _ hanswered.deeper

/-- A method that uses a factory does so in its only line of code. -/
theorem mem_methodLines_factoryReturn {byHand : String → Option String} (hb : PlainBodies byHand)
    {m : Method} {l : Line} {target : String} (hl : l ∈ methodLines byHand m)
    (ht : l.text = factoryReturn target) :
    byHand m.name = none ∧ m.factoryTarget? = some target ∧ l.depth = 1 := by
  have hcomments : UsesNone (summaryLines m.desc ++ m.signatures.flatMap signatureLines) :=
    usesNone_comments fun _ => isComment_of_mem_methodComments
  -- opening and end, comments and bodies written by hand start with other characters
  unfold methodLines at hl
  rcases List.mem_cons.1 hl with rfl | hl
  · exact absurd ht (ne_factoryReturn_of_head (head?_functionOpening _ _) (by decide) target)
  rcases List.mem_append.1 hl with hl | hl
  swap
  · rw [List.mem_singleton.1 hl] at ht
    exact absurd ht (ne_factoryReturn_of_head (c := '\x7d') rfl (by decide) target)
  obtain ⟨k, hk, rfl⟩ := List.mem_map.1 hl
  rcases List.mem_append.1 hk with hk | hk
  · exact absurd ht (hcomments k hk target)
  unfold bodyLines at hk
  cases hm : byHand m.name with
  | some code =>
    rw [hm] at hk
    obtain ⟨text, htext, rfl⟩ := List.mem_map.1 hk
    have hplain : isPlainCode text.toList = true := hb m.name code hm text htext
    exact absurd ht (ne_factoryReturn (isPrefixOf_of_isPlainCode hplain) target)
  | none =>
    rw [hm] at hk
    obtain ⟨other, hother, rfl⟩ := List.mem_map.1 hk
    have he : other = target := factoryReturn_injective ht
    subst he
    exact ⟨rfl, Option.mem_toList.1 hother, rfl⟩

/-- A class has its factory in its container. -/
theorem factoryOpening_mem_classLines (c : Scope) :
    ⟨0, factoryOpening (Name.className c.name)⟩ ∈ classLines c := by
  unfold classLines factoryLines
  simp

/-- A factory method without its class is noticed. -/
theorem missingFactoryTarget_mem_notes {c : Container} {m : Method} {target : String}
    (hm : m ∈ c.scope.methods.getD []) (hnone : c.byHand m.name = none)
    (hfactory : m.factoryTarget? = some target)
    (hmissing : ¬∃ k ∈ c.classes, Name.className k.name = target) :
    .missingFactoryTarget c.name ("create" ++ target) target ∈ c.notes := by
  obtain ⟨-, hname⟩ := Method.factoryTarget?_eq_some_iff.1 hfactory
  refine List.mem_filterMap.2 ⟨m, hm, ?_⟩
  unfold missing?
  rw [hnone, hfactory]
  simp only
  rw [if_neg hmissing, hname]

/-- A container answers for its own methods; its classes stand in its body. -/
theorem eachUse_membersLines {c : Container} {specializer : Option Specializer}
    (hb : PlainBodies c.byHand)
    (hbody : c.body registry 0 =
      membersLines c.byHand (c.classes.flatMap classLines) specializer c.scope)
    (hclasses : Answered registry containers (c.classes.flatMap classLines)) :
    EachUse (OwnOrAnswered registry containers c) (c.body registry 0) := by
  have hsummary : UsesNone (summaryLines c.scope.desc) :=
    usesNone_comments fun _ => isComment_of_mem_summaryLines
  have hevents : UsesNone (c.scope.events.elim [] eventsLines) := by
    cases c.scope.events with
    | none => exact usesNone_nil
    | some events => exact usesNone_eventsLines events
  have hproperties : UsesNone
      ((c.scope.properties.getD []).flatMap (propertyLines specializer)) := by
    intro l hl
    obtain ⟨p, -, hl⟩ := List.mem_flatMap.1 hl
    exact usesNone_propertyLines specializer p l hl
  have hfactory {k : Scope} (hk : k ∈ c.classes) :
      ⟨0, factoryOpening (Name.className k.name)⟩ ∈ c.body registry 0 := by
    rw [hbody, membersLines]
    simp only [List.mem_append]
    exact .inl (.inr (List.mem_flatMap.2 ⟨k, hk, factoryOpening_mem_classLines k⟩))
  have hmethods : EachUse (OwnOrAnswered registry containers c)
      ((c.scope.methods.getD []).flatMap (methodLines c.byHand)) := by
    intro pre l post target hplace ht
    have hl : l ∈ (c.scope.methods.getD []).flatMap (methodLines c.byHand) := by simp [hplace]
    obtain ⟨m, hm, hl⟩ := List.mem_flatMap.1 hl
    obtain ⟨hnone, htarget, hdepth⟩ := mem_methodLines_factoryReturn hb hl ht
    refine .inl ⟨hdepth, ?_⟩
    by_cases hdeclared : ∃ k ∈ c.classes, Name.className k.name = target
    · obtain ⟨k, hk, rfl⟩ := hdeclared
      exact .inr (hfactory hk)
    · exact .inl (missingFactoryTarget_mem_notes hm hnone htarget hdeclared)
  have hstays : StaysWithin (OwnOrAnswered registry containers c) := staysWithin_ownOrAnswered
  have hnested : EachUse (OwnOrAnswered registry containers c) (c.classes.flatMap classLines) :=
    EachUse.mono hclasses fun _ _ _ _ => .inr
  rw [hbody]
  exact .append hstays (.append hstays (.append hstays (.append hstays hsummary.eachUse hmethods)
    hevents.eachUse) hnested) hproperties.eachUse

/-- What refuses the members of the container. -/
def Container.violations (c : Container) : List Violation :=
  membersViolations c.name c.scope (c.classes.flatMap classViolations)

theorem Container.result_draft_eq_ok_iff {c : Container} :
    (c.draft registry).result = .ok () ↔ c.violations = [] := by
  have hclasses : StopsAt (Draft.each classDraft c.classes).result
      (c.classes.flatMap classViolations) := stopsAt_each fun k _ => stopsAt_classDraft k
  have hs : StopsAt (c.draft registry).result c.violations := stopsAt_membersDraft hclasses ..
  exact hs.eq_ok_iff

/-- A container without violations writes its members. -/
theorem Container.lines_draft {c : Container} (h : c.violations = []) :
    (c.draft registry).lines =
      membersLines c.byHand (c.classes.flatMap classLines) (c.specializer registry) c.scope := by
  have hc : ∀ k ∈ c.classes, classViolations k = [] :=
    List.flatMap_eq_nil_iff.1 (membersViolations_eq_nil_iff.1 h).2.1
  have hclasses : (Draft.each classDraft c.classes).Writes (c.classes.flatMap classLines)
      (c.classes.flatMap classNotes) :=
    Draft.writes_each fun k hk => writes_classDraft (hc k hk)
  exact (writes_membersDraft hclasses h).lines_eq

theorem Container.body_zero {c : Container} (h : c.violations = []) :
    c.body registry 0 =
      membersLines c.byHand (c.classes.flatMap classLines) (c.specializer registry) c.scope := by
  rw [body, lines_draft h]
  simp

theorem answered_classLines {c : Scope} (h : classViolations c = [])
    (hc : Container.ofClass c ∈ containers) : Answered registry containers (classLines c) := by
  have hbody : (Container.ofClass c).body registry 0 = classBody c :=
    Container.body_zero (List.append_eq_nil_iff.1 h).2
  have hmembers : EachUse (OwnOrAnswered registry containers (.ofClass c))
      ((Container.ofClass c).body registry 0) :=
    eachUse_membersLines plainBodies_noBody hbody usesNone_nil.answered
  have hframe := answered_frameLines hc hmembers "" ""
  rw [hbody] at hframe
  -- the function of a class starts with an underscore, not with `this`
  have hobject : factoryMark.isPrefixOf
      ("return new _" ++ Name.className c.name ++ "();").toList = false := by
    rw [String.append_assoc, String.toList_append]
    rfl
  have hfactory : UsesNone (⟨0, ""⟩ :: factoryLines c) :=
    .cons (ne_factoryReturn rfl) <|
    .cons (ne_factoryReturn_of_head (head?_factoryOpening _) (by decide)) <|
    .cons (ne_factoryReturn hobject) <|
    .cons (ne_factoryReturn rfl) usesNone_nil
  exact hframe.append hfactory.answered

theorem answered_scopeLines {role : Role} (hrole : role ≠ .nested) {m : Module}
    (h : scopeViolations role m = []) (hc : ∀ c ∈ m.containers role, c ∈ containers)
    (hb : PlainBodies (m.container role).byHand) (lead trail : String) :
    Answered registry containers
      (scopeLines registry role (m.container role).byHand lead trail m) := by
  have hmembers : membersViolations (m.container role).name (m.container role).scope
      ((m.container role).classes.flatMap classViolations) = [] := (List.append_eq_nil_iff.1 h).2
  have hviolations : ∀ k ∈ m.classes.getD [], classViolations k = [] :=
    List.flatMap_eq_nil_iff.1 (membersViolations_eq_nil_iff.1 hmembers).2.1
  have hclasses : Answered registry containers ((m.classes.getD []).flatMap classLines) := by
    refine .flatMap fun k hk => answered_classLines (hviolations k hk) (hc _ ?_)
    exact List.mem_cons_of_mem _ (List.mem_map_of_mem hk)
  have hbody : (m.container role).body registry 0 = _ := Container.body_zero hmembers
  have hanswered := answered_frameLines (hc _ (by simp [Module.containers]))
    (eachUse_membersLines hb hbody hclasses) lead trail
  have hknown : (m.container role).specializer registry =
      registry.get? (role.container m.name) := by
    cases role with
    | module => rfl
    | global => rfl
    | nested => exact absurd rfl hrole
  unfold scopeLines scopeBody
  rw [hbody, hknown] at hanswered
  exact hanswered

theorem usesNone_cacheLines (modules : List Module) : UsesNone (cacheLines modules) := by
  have hentry (m : Module) : ("\"" ++ moduleLabel m ++ "\": null,").toList.head? = some '"' := by
    repeat apply head?_append
    rfl
  refine .cons (ne_factoryReturn rfl) (.append ?_ (.cons (ne_factoryReturn rfl) usesNone_nil))
  intro l hl
  obtain ⟨m, -, rfl⟩ := List.mem_map.1 hl
  exact ne_factoryReturn_of_head (hentry m) (by decide)

theorem usesNone_resolverLines : UsesNone (resolverLines.map (⟨0, ·⟩)) :=
  usesNone_texts fun l hl => isPrefixOf_of_isPlainCode (isPlainCode_of_mem_resolverLines l hl)

theorem answered_loaderLines {modules : List Module}
    (h : ∀ m ∈ modules, Answered registry containers (caseLines registry m)) :
    Answered registry containers (loaderLines registry modules) := by
  have hdepth : factoryMark.isPrefixOf
      ("var max_require_depth = " ++ maxRequireDepth.repr ++ ";").toList = false := by decide
  have hclose : UsesNone [⟨0, "\x7d"⟩] := .cons (ne_factoryReturn rfl) usesNone_nil
  have hcases : Answered registry containers (modules.flatMap (caseLines registry)) := .flatMap h
  have hdispatcher : Answered registry containers (dispatcherLines registry modules) :=
    .cons (ne_factoryReturn rfl) <| .append
      (.deeper (.cons (ne_factoryReturn rfl) (.append hcases.deeper hclose.answered)))
      hclose.answered
  have hend : UsesNone [⟨0, "return f;"⟩] := .cons (ne_factoryReturn rfl) usesNone_nil
  have hlast : UsesNone [⟨0, "\x7d();"⟩] := .cons (ne_factoryReturn rfl) usesNone_nil
  exact .cons (ne_factoryReturn (by decide)) <| .append (.deeper <|
    .cons (ne_factoryReturn rfl) <| .cons (ne_factoryReturn rfl) <|
    .cons (ne_factoryReturn hdepth) <| .append (.append (.append
      (usesNone_cacheLines modules).answered hdispatcher) usesNone_resolverLines.answered)
      hend.answered) hlast.answered

theorem answered_stubsLines {tree : Tree} (h : tree.violations = []) :
    Answered registry tree.containers (stubsLines registry tree) := by
  obtain ⟨hg, hm⟩ := tree.violations_eq_nil_iff.1 h
  have hglobals : Answered registry tree.containers
      (tree.declaredGlobals.flatMap (globalLines registry)) := by
    refine .flatMap fun g hmem => ?_
    exact answered_scopeLines (by decide) (hg g hmem)
      (fun c hc => List.mem_append_left _ (List.mem_flatMap.2 ⟨g, hmem, hc⟩))
      plainBodies_noBody _ _
  have hmodules : Answered registry tree.containers (loaderLines registry tree.modules) := by
    refine answered_loaderLines fun m hmem => ?_
    exact answered_scopeLines (by decide) (hm m hmem)
      (fun c hc => List.mem_append_right _ (List.mem_flatMap.2 ⟨m, hmem, hc⟩))
      (plainBodies_handWritten m.name) _ _
  exact .cons (ne_factoryReturn rfl) (hglobals.append hmodules)

end Answered

end ApiStubs
