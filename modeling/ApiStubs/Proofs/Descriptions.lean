import ApiStubs.Proofs.Diagnostics

/-!
# What descriptions decide

Descriptions are prose: whether a generation succeeds, where it fails and what is noticed about
factories hangs on names and signatures alone. Where a description cannot be read, its row in the
table is that of a module without one, and no other row changes.

* `undescribed`, for each kind of entry: the entry without its descriptions and raw signatures;
* `violations_undescribed`, `flatMap_notes_undescribed`: neither looks at descriptions;
* `Artifacts.factoryNotes`: what is noticed about factories;
* `generateWith_undescribed`: two documentations that differ in descriptions only.
-/

namespace ApiStubs

open Doc Inference Stub

/-! ### Documentation without descriptions -/

namespace Doc

/-- The parameter without its description. -/
def Param.undescribed (p : Param) : Param := { p with desc := none }

/-- The type of what is returned. -/
def Return.undescribed (r : Return) : Return := { r with desc := none }

/-- The signature without descriptions. -/
def Signature.undescribed (s : Signature) : Signature :=
  { params := s.params.map Param.undescribed, returns := s.returns.map Return.undescribed }

/-- The method without descriptions. -/
def Method.undescribed (m : Method) : Method :=
  { name := m.name, signatures := m.signatures.map Signature.undescribed }

/-- The event without its description. -/
def Event.undescribed (e : Event) : Event := { e with desc := none }

/-- The property without its description and its raw signature. -/
def Property.undescribed (p : Property) : Property := { name := p.name }

/-- The scope without descriptions. -/
def Scope.undescribed (s : Scope) : Scope :=
  { name := s.name
    methods := s.methods.map (·.map Method.undescribed)
    events := s.events.map (·.map Event.undescribed)
    properties := s.properties.map (·.map Property.undescribed) }

/-- The module or global object without descriptions. -/
def Module.undescribed (m : Module) : Module :=
  { m.toScope.undescribed with classes := m.classes.map (·.map Scope.undescribed) }

/-- The section without descriptions. -/
def Section.undescribed (s : Section) : Section :=
  { name := s.name, globals := s.globals.map (·.map Module.undescribed) }

/-- The documentation without descriptions. -/
def Tree.undescribed (tree : Tree) : Tree :=
  { modules := tree.modules.map Module.undescribed,
    sections := tree.sections.map Section.undescribed }

/-! ### Violations -/

theorem Signature.bare_undescribed (s : Signature) : s.undescribed.bare = s.bare := by
  have hvariadic : (fun p : Param => !p.undescribed.isVariadic) = fun p => !p.isVariadic := rfl
  unfold bare positional undescribed
  simp only [List.takeWhile_map, Function.comp_def, hvariadic, List.map_map]
  rfl

theorem Method.bare_undescribed (m : Method) : m.undescribed.bare = m.bare := by
  unfold bare undescribed
  simp [← List.map_take, Function.comp_def, Signature.bare_undescribed]

theorem Scope.bare_undescribed (s : Scope) : s.undescribed.bare = s.bare := by
  unfold bare undescribed
  simp [Function.comp_def, Method.bare_undescribed, Property.undescribed]

theorem Module.bare_undescribed (m : Module) : m.undescribed.bare = m.bare := by
  have hscope : m.undescribed.toScope.bare = m.toScope.bare := Scope.bare_undescribed m.toScope
  unfold bare
  rw [hscope]
  simp [undescribed, Function.comp_def, Scope.bare_undescribed]

theorem Module.hasMembers_undescribed (m : Module) : m.undescribed.hasMembers = m.hasMembers := by
  simp [hasMembers, undescribed, Scope.undescribed]

/-- Global objects that keep whether they have members are declared as before. -/
theorem Tree.declaredGlobals_mapGlobals {g : Module → Module}
    (hg : ∀ m, (g m).hasMembers = m.hasMembers) (tree : Tree) (modules : List Module) :
    Tree.declaredGlobals { modules, sections := tree.sections.map fun s =>
        { s with globals := s.globals.map (·.map g) } } = tree.declaredGlobals.map g := by
  have hname : (fun s : Section => s.name == globalsSectionName) ∘
      (fun s : Section => { s with globals := s.globals.map (·.map g) }) =
        fun s => s.name == globalsSectionName := rfl
  unfold declaredGlobals
  rw [List.find?_map, hname]
  cases tree.sections.find? (·.name == globalsSectionName) with
  | none => rfl
  | some s =>
    cases hs : s.globals with
    | none => simp [hs]
    | some globals => simp [hs, List.filter_map, Function.comp_def, hg]

theorem Tree.declaredGlobals_undescribed (tree : Tree) :
    tree.undescribed.declaredGlobals = tree.declaredGlobals.map Module.undescribed :=
  declaredGlobals_mapGlobals Module.hasMembers_undescribed tree _

theorem Tree.bare_undescribed (tree : Tree) : tree.undescribed.bare = tree.bare := by
  unfold bare
  rw [declaredGlobals_undescribed]
  simp [undescribed, Function.comp_def, Module.bare_undescribed]

theorem Tree.violations_undescribed (tree : Tree) :
    tree.undescribed.violations = tree.violations := by
  rw [← violations_bare, bare_undescribed, violations_bare]

end Doc

/-! ### Factories -/

/-- The container without descriptions. -/
def Container.undescribed (c : Container) : Container :=
  { role := c.role, scope := c.scope.undescribed, classes := c.classes.map Scope.undescribed }

theorem missing?_undescribed (byHand : String → Option String) (container : String)
    (classes : List Scope) (m : Method) :
    missing? byHand container (classes.map Scope.undescribed) m.undescribed =
      missing? byHand container classes m := by
  have hname : m.undescribed.name = m.name := rfl
  have htarget : m.undescribed.factoryTarget? = m.factoryTarget? := rfl
  unfold missing?
  rw [hname, htarget]
  simp [Scope.undescribed]

theorem Container.notes_undescribed (c : Container) : c.undescribed.notes = c.notes := by
  have hname : c.undescribed.name = c.name := rfl
  have hbyHand : c.undescribed.byHand = c.byHand := rfl
  unfold notes membersNotes
  rw [hname, hbyHand]
  cases hm : c.scope.methods with
  | none => simp [undescribed, Scope.undescribed, hm]
  | some methods =>
    simp [undescribed, Scope.undescribed, hm, List.filterMap_map, missing?_undescribed]

theorem Doc.Module.containers_undescribed (role : Role) (m : Module) :
    m.undescribed.containers role = (m.containers role).map Container.undescribed := by
  unfold containers container undescribed
  cases m.classes with
  | none => rfl
  | some classes =>
    simp [Container.undescribed, Container.ofClass, Function.comp_def]

theorem Doc.Tree.containers_undescribed (tree : Tree) :
    tree.undescribed.containers = tree.containers.map Container.undescribed := by
  unfold containers
  rw [declaredGlobals_undescribed]
  simp [undescribed, List.flatMap_map, List.map_flatMap, Module.containers_undescribed]

theorem flatMap_notes_undescribed (tree : Tree) :
    tree.undescribed.containers.flatMap Container.notes =
      tree.containers.flatMap Container.notes := by
  rw [Tree.containers_undescribed, List.flatMap_map]
  simp only [Container.notes_undescribed]

/-- The diagnostic is about a factory. -/
def Diagnostic.isMissingFactoryTarget : Diagnostic → Bool
  | .missingFactoryTarget .. => true
  | .unparseableDescription .. => false

/-- What is noticed about factories, in order. -/
def Artifacts.factoryNotes (artifacts : Artifacts) : List Diagnostic :=
  artifacts.diagnostics.filter Diagnostic.isMissingFactoryTarget

theorem isMissingFactoryTarget_of_mem_notes {c : Container} {d : Diagnostic} (h : d ∈ c.notes) :
    d.isMissingFactoryTarget = true := by
  obtain ⟨m, -, hm⟩ := List.mem_filterMap.1 h
  unfold missing? at hm
  split at hm
  · split at hm
    · cases hm
    · obtain rfl := Option.some.inj hm
      rfl
  · cases hm

theorem isMissingFactoryTarget_of_unreadable? {m : Module} {d : Diagnostic}
    (h : unreadable? m = some d) : d.isMissingFactoryTarget = false := by
  obtain ⟨desc, -, hdesc⟩ := Option.bind_eq_some_iff.1 h
  obtain ⟨fault, -, rfl⟩ := Option.map_eq_some_iff.1 hdesc
  rfl

/-- The table notices nothing about factories. -/
theorem filter_emit_diagnostics (o : DocTable.Options) (modules : List Module) :
    (DocTable.emit o modules).2.filter Diagnostic.isMissingFactoryTarget = [] := by
  rw [emit_diagnostics]
  refine List.filter_eq_nil_iff.2 fun d hd => ?_
  obtain ⟨m, -, hm⟩ := List.mem_filterMap.1 hd
  simp [isMissingFactoryTarget_of_unreadable? hm]

/-- What is noticed about factories comes from the containers alone. -/
theorem factoryNotes_generateWith {registry : Registry} {options : Options} {tree : Tree}
    (h : tree.violations = []) :
    (generateWith registry options tree).map Artifacts.factoryNotes =
      .ok (tree.containers.flatMap Container.notes) := by
  have hnotes : (tree.containers.flatMap Container.notes).filter
      Diagnostic.isMissingFactoryTarget = tree.containers.flatMap Container.notes := by
    refine List.filter_eq_self.2 fun d hd => ?_
    obtain ⟨c, -, hc⟩ := List.mem_flatMap.1 hd
    exact isMissingFactoryTarget_of_mem_notes hc
  rw [generateWith_eq_ok h]
  show Except.ok (Artifacts.factoryNotes _) = _
  unfold Artifacts.factoryNotes
  rw [stubsNotes_eq, List.filter_append, hnotes, filter_emit_diagnostics, List.append_nil]

/-! ### Rows -/

theorem renderInline_empty (style : Fragment.InlineStyle) :
    Fragment.renderInline "" style = .ok "" := by
  have hnewline : ¬style.newline.toList <:+ [] := by
    intro h
    exact style.newline_ne_empty (by simpa using List.suffix_nil.1 h)
  have hevents : ([.start Fragment.rootElement false, .stop Fragment.rootElement] :
      List Fragment.Event).flatMap (Fragment.Event.inline style) = [] := rfl
  unfold Fragment.renderInline
  rw [Fragment.read_empty]
  show Except.ok (Fragment.inlineText style _) = _
  unfold Fragment.inlineText
  rw [hevents, Fragment.trimEndOf_of_not_suffix hnewline]

/-- A module without a description has an empty row. -/
theorem entry_of_desc_eq_none (style : Fragment.InlineStyle) {m : Module} (h : m.desc = none) :
    (DocTable.entry style m).1 = ⟨Name.identifier m.name, ""⟩ := by
  unfold DocTable.entry
  rw [h, Option.getD_none, renderInline_empty]

/-- A description that cannot be read leaves the row empty. -/
theorem entry_of_unreadable? (style : Fragment.InlineStyle) {m : Module}
    (h : unreadable? m ≠ none) :
    (DocTable.entry style m).1 = ⟨Name.identifier m.name, ""⟩ := by
  have hnotes := diagnostics_entry style m
  unfold DocTable.entry at hnotes ⊢
  cases hr : Fragment.renderInline (m.desc.getD "") style with
  | error fault => rfl
  | ok doc =>
    rw [hr] at hnotes
    exact absurd (Option.toList_eq_nil_iff.1 hnotes.symm) h

/-- Where a description cannot be read, all rows are those without it. -/
theorem entries_withoutDesc (style : Fragment.InlineStyle) {m : Module} (h : unreadable? m ≠ none)
    (before after : List Module) :
    DocTable.entries style (before ++ m :: after) =
      DocTable.entries style (before ++ { m with desc := none } :: after) := by
  have hrow : (DocTable.entry style m).1 = (DocTable.entry style { m with desc := none }).1 := by
    rw [entry_of_unreadable? style h, entry_of_desc_eq_none style rfl]
  unfold DocTable.entries
  rw [List.map_append, List.map_cons, List.map_append, List.map_cons, hrow]

/-! ### Two documentations -/

/-- The documentation with these modules, one of which has lost its description. -/
def Doc.Tree.withoutDesc (tree : Tree) (before : List Module) (m : Module) (after : List Module) :
    Tree :=
  { tree with modules := before ++ { m with desc := none } :: after }

theorem Doc.Tree.undescribed_withoutDesc {tree : Tree} {before after : List Module} {m : Module}
    (h : tree.modules = before ++ m :: after) :
    (tree.withoutDesc before m after).undescribed = tree.undescribed := by
  unfold undescribed withoutDesc
  rw [h]
  simp [Module.undescribed, Scope.undescribed]

theorem generateWith_factoryNotes_eq {registry : Registry} {options : Options} {t u : Tree}
    (h : t.undescribed = u.undescribed) :
    (generateWith registry options t).map Artifacts.factoryNotes =
      (generateWith registry options u).map Artifacts.factoryNotes := by
  -- violations and notes are those of the one documentation without descriptions
  have hviolations : t.violations = u.violations := by
    rw [← t.violations_undescribed, h, u.violations_undescribed]
  have hnotes : t.containers.flatMap Container.notes = u.containers.flatMap Container.notes := by
    rw [← flatMap_notes_undescribed t, h, flatMap_notes_undescribed u]
  cases hv : t.violations with
  | nil =>
    rw [factoryNotes_generateWith hv, factoryNotes_generateWith (hviolations ▸ hv), hnotes]
  | cons v vs =>
    have ht := (stopsAt_generateWith registry options t).error_iff (v := v)
    have hu := (stopsAt_generateWith registry options u).error_iff (v := v)
    rw [ht.2 (by rw [hv]; rfl), hu.2 (by rw [← hviolations, hv]; rfl)]

/-- Descriptions decide neither whether a generation succeeds, nor where it fails, nor what is
noticed about factories. One that cannot be read changes its own row of the table only, to that of
a module without a description. -/
theorem generateWith_undescribed (registry : Registry) (options : Options) {t u : Tree}
    (h : t.undescribed = u.undescribed) :
    (generateWith registry options t).map Artifacts.factoryNotes =
      (generateWith registry options u).map Artifacts.factoryNotes ∧
    ∀ artifacts, generateWith registry options t = .ok artifacts →
      ∀ before m after, t.modules = before ++ m :: after → unreadable? m ≠ none →
        (∃ artifacts', generateWith registry options (t.withoutDesc before m after) =
          .ok artifacts' ∧ artifacts'.table = artifacts.table) ∧
        ∀ style,
          DocTable.entries style t.modules =
            DocTable.entries style (t.withoutDesc before m after).modules ∧
          DocTable.entries style t.modules =
            DocTable.entries style before ++
              ⟨Name.identifier m.name, ""⟩ :: DocTable.entries style after := by
  refine ⟨generateWith_factoryNotes_eq h, ?_⟩
  intro artifacts hok before m after hmodules hbad
  have hrows (style : Fragment.InlineStyle) : DocTable.entries style t.modules =
      DocTable.entries style (t.withoutDesc before m after).modules := by
    rw [hmodules]
    exact entries_withoutDesc style hbad before after
  have hnone : t.violations = [] :=
    (stopsAt_generateWith registry options t).exists_ok_iff.1 ⟨artifacts, hok⟩
  have hnone' : (t.withoutDesc before m after).violations = [] := by
    rw [← Tree.violations_undescribed, Tree.undescribed_withoutDesc hmodules,
      Tree.violations_undescribed, hnone]
  rw [generateWith_eq_ok hnone] at hok
  obtain rfl := Except.ok.inj hok
  refine ⟨⟨_, generateWith_eq_ok hnone', ?_⟩, fun style => ⟨hrows style, ?_⟩⟩
  · unfold DocTable.emit
    rw [hrows]
  · rw [hmodules]
    unfold DocTable.entries
    rw [List.map_append, List.map_cons, entry_of_unreadable? style hbad]

/-- The documentation `factoryTree` with other descriptions: one that can be read, and one of a
class. -/
def retoldTree : Tree :=
  { modules := [{ name := "net", desc := some "<p>a</p>",
                  methods := some [{ name := "createServer", desc := some "b", signatures := [{}] },
                                   { name := "createSocket", signatures := [{}] }],
                  classes := some [{ name := "net.Server", desc := some strayTag }] }] }

theorem generateWith_undescribed_factoryTree :
    ∃ artifacts, generateWith .empty {} factoryTree = .ok artifacts ∧
      (generateWith .empty {} factoryTree).map Artifacts.factoryNotes =
        (generateWith .empty {} retoldTree).map Artifacts.factoryNotes ∧
      DocTable.entries .escaped factoryTree.modules = [⟨"net", ""⟩] := by
  have hnone : factoryTree.violations = [] := by decide
  obtain ⟨artifacts, hok⟩ :=
    (stopsAt_generateWith .empty {} factoryTree).exists_ok_iff.2 hnone
  have hsame : factoryTree.undescribed = retoldTree.undescribed := by decide
  obtain ⟨hnotes, hrows⟩ := generateWith_undescribed .empty {} hsame
  have hbad : ∀ m ∈ factoryTree.modules, unreadable? m ≠ none := by
    intro m hm
    obtain rfl := List.mem_singleton.1 hm
    simp [unreadable?, fault_read_strayTag]
  obtain ⟨-, hentries⟩ := hrows artifacts hok [] _ [] rfl (hbad _ (List.mem_singleton.2 rfl))
  refine ⟨artifacts, hok, hnotes, ?_⟩
  rw [(hentries .escaped).2]
  decide

end ApiStubs
