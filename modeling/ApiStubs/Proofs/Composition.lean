import ApiStubs.Proofs.Diagnostics

/-!
# The parts of the stubs

All parts of the stubs go through one writer, yet each of them is the text that a fresh writer would
give it. So the stubs of a documentation are put together from texts of single entries, and a
change in one place of the documentation shows in the text of that place alone.

* `Draft.textAt`: the text that a draft gets from a fresh writer at a depth;
* `HeadedBy`: what stands above the stubs for a header;
* `stubsWriter`: the one writer that takes all parts in their order;
* `cacheSection`, `switchSection`, `loaderText`: the parts of the loader, as texts;
* `loaderLines_eq`: the parts of the loader, as lines;
* `Composed`: artifacts as they are put together from the entries of a documentation;
* `declaredGlobals_addSection`, `declaredGlobals_addGlobal`: additions without effect;
* `generateWith_composed`: every generation gives artifacts put together so.
-/

namespace ApiStubs

open Doc Inference Stub

variable {α : Type}

/-! ### Texts of drafts -/

/-- The text that a draft gets from a fresh writer at a depth. -/
def Draft.textAt (depth : Nat) (d : Draft Unit) : String := (Writer.write { depth } d.lines).output

theorem Draft.textAt_eq (depth : Nat) (d : Draft Unit) : d.textAt depth = render depth d.lines := by
  rw [textAt, Writer.write_eq]
  exact String.empty_append

theorem Draft.Writes.textAt_eq {d : Draft Unit} {ls : List Line} {ds : List Diagnostic}
    (h : d.Writes ls ds) (depth : Nat) : d.textAt depth = render depth ls := by
  rw [Draft.textAt_eq, h.lines_eq]

theorem Draft.Writes.diagnostics_eq {d : Draft Unit} {ls : List Line} {ds : List Diagnostic}
    (h : d.Writes ls ds) : d.diagnostics = ds := by
  unfold Writes at h
  rw [h]

theorem render_flatMap (depth : Nat) (f : α → List Line) (as : List α) :
    render depth (as.flatMap f) = String.join (as.map fun a => render depth (f a)) := by
  induction as with
  | nil => rfl
  | cons a as ih => rw [List.flatMap_cons, render_append, ih, List.map_cons, String.join_cons]

/-- A writer that takes one draft after the other gives each the text it gets alone. -/
theorem Writer.foldl_write (f : α → Draft Unit) (as : List α) (w : Writer) :
    as.foldl (fun w a => w.write (f a).lines) w =
      { w with output := w.output ++ String.join (as.map fun a => (f a).textAt w.depth) } := by
  induction as generalizing w with
  | nil => simp
  | cons a as ih =>
    rw [List.foldl_cons, ih, write_eq, List.map_cons, String.join_cons, Draft.textAt_eq]
    simp [String.append_assoc]

/-! ### The loader -/

namespace Stub

/-- The entry of a module in the cache. -/
def cacheEntry (m : Module) : Draft Unit := .line ("\"" ++ moduleLabel m ++ "\": null,")

/-- The entries of the cache. -/
def cacheSection (modules : List Module) : String := (Draft.each cacheEntry modules).textAt 2

/-- The cases of the dispatcher. -/
def switchSection (registry : Registry) (modules : List Module) : String :=
  (Draft.each (caseDraft registry) modules).textAt 3

/-- The lines of the loader above its cache. -/
def loaderOpening : List Line :=
  [⟨0, loaderName ++ " = function () \x7b"⟩, ⟨1, "var require_count = 0;"⟩,
   ⟨1, "var require_depth = 0;"⟩,
   ⟨1, "var max_require_depth = " ++ maxRequireDepth.repr ++ ";"⟩, ⟨1, "var cache = \x7b"⟩]

/-- The lines of the loader between its cache and its cases. -/
def loaderMiddle : List Line :=
  [⟨1, "\x7d"⟩, ⟨1, "function make_module(module_name) \x7b"⟩, ⟨2, "switch(module_name) \x7b"⟩]

/-- The lines of the loader below its cases. -/
def loaderClosing : List Line :=
  [⟨2, "\x7d"⟩, ⟨1, "\x7d"⟩] ++ resolverLines.map (⟨1, ·⟩) ++ [⟨1, "return f;"⟩, ⟨0, "\x7d();"⟩]

/-- The loader around the entries of its cache and its cases. -/
def loaderText (registry : Registry) (modules : List Module) : String :=
  render 0 loaderOpening ++ cacheSection modules ++ render 0 loaderMiddle ++
    switchSection registry modules ++ render 0 loaderClosing

theorem writes_cacheEntries (modules : List Module) :
    (Draft.each cacheEntry modules).Writes
      (modules.map fun m => ⟨0, "\"" ++ moduleLabel m ++ "\": null,"⟩) [] :=
  Draft.writes_lines modules fun m => "\"" ++ moduleLabel m ++ "\": null,"

theorem writes_caseDraft (registry : Registry) {m : Module} (h : scopeViolations .module m = []) :
    (caseDraft registry m).Writes (caseLines registry m)
      (scopeNotes .module (handWritten m.name) m) :=
  writes_scopeDraft h

theorem writes_cases (registry : Registry) {modules : List Module}
    (h : ∀ m ∈ modules, scopeViolations .module m = []) :
    (Draft.each (caseDraft registry) modules).Writes (modules.flatMap (caseLines registry))
      (modulesNotes modules) :=
  Draft.writes_each fun m hm => writes_caseDraft registry (h m hm)

theorem cacheSection_eq (modules : List Module) :
    cacheSection modules = String.join (modules.map fun m => (cacheEntry m).textAt 2) := by
  rw [cacheSection, (writes_cacheEntries modules).textAt_eq, List.map_eq_flatMap, render_flatMap]
  simp only [Draft.textAt_eq]
  rfl

theorem switchSection_eq (registry : Registry) {modules : List Module}
    (h : ∀ m ∈ modules, scopeViolations .module m = []) :
    switchSection registry modules =
      String.join (modules.map fun m => (caseDraft registry m).textAt 3) := by
  rw [switchSection, (writes_cases registry h).textAt_eq, render_flatMap]
  congr 1
  refine List.map_congr_left fun m hm => ?_
  rw [(writes_caseDraft registry (h m hm)).textAt_eq]

theorem cacheSection_append (xs ys : List Module) :
    cacheSection (xs ++ ys) = cacheSection xs ++ cacheSection ys := by
  simp only [cacheSection_eq, List.map_append, String.join_append]

theorem switchSection_append (registry : Registry) {xs ys : List Module}
    (h : ∀ m ∈ xs ++ ys, scopeViolations .module m = []) :
    switchSection registry (xs ++ ys) = switchSection registry xs ++ switchSection registry ys := by
  have hx : ∀ m ∈ xs, scopeViolations .module m = [] := fun m hm => h m (by simp [hm])
  have hy : ∀ m ∈ ys, scopeViolations .module m = [] := fun m hm => h m (by simp [hm])
  rw [switchSection_eq registry h, switchSection_eq registry hx, switchSection_eq registry hy,
    List.map_append, String.join_append]

/-- The line of a module in the cache. -/
def cacheLine (m : Module) : Line := ⟨2, "\"" ++ moduleLabel m ++ "\": null,"⟩

/-- Three levels deeper, as the cases stand in the loader. -/
def inSwitch (lines : List Line) : List Line :=
  ((lines.map Line.deeper).map Line.deeper).map Line.deeper

theorem render_inSwitch (lines : List Line) : render 0 (inSwitch lines) = render 3 lines := by
  simp only [inSwitch, render_deeper]

/-- The loader is made of its fixed lines, the lines of its cache, and its cases. -/
theorem loaderLines_eq (registry : Registry) (modules : List Module) :
    loaderLines registry modules =
      loaderOpening ++ modules.map cacheLine ++ loaderMiddle ++
        inSwitch (modules.flatMap (caseLines registry)) ++ loaderClosing := by
  simp [loaderLines, cacheLines, dispatcherLines, loaderOpening, loaderMiddle, loaderClosing,
    cacheLine, inSwitch, Line.deeper, Function.comp_def]

theorem render_loaderLines (registry : Registry) {modules : List Module}
    (h : ∀ m ∈ modules, scopeViolations .module m = []) :
    render 0 (loaderLines registry modules) = loaderText registry modules := by
  have hentries : render 0 (modules.map cacheLine) = cacheSection modules := by
    rw [cacheSection, (writes_cacheEntries modules).textAt_eq]
    simp [render, cacheLine, Function.comp_def]
  have hcases : render 0 (inSwitch (modules.flatMap (caseLines registry))) =
      switchSection registry modules := by
    rw [switchSection, (writes_cases registry h).textAt_eq, render_inSwitch]
  rw [loaderLines_eq, loaderText]
  simp only [render_append, hentries, hcases]

end Stub

/-! ### Artifacts put together -/

/-- What stands above the stubs for a header: nothing if there is none or it is empty, the header as
it is if it ends with a line feed, and else the header and a line feed. -/
inductive HeadedBy : Option String → String → Prop
  | none : HeadedBy none ""
  | empty : HeadedBy (some "") ""
  | ended {text : String} (h : text.toList.getLast? = some '\n') : HeadedBy (some text) text
  | completed {text : String} (hne : text ≠ "") (h : text.toList.getLast? ≠ some '\n') :
      HeadedBy (some text) (text ++ "\n")

theorem headedBy_onOwnLines (header : Option String) :
    HeadedBy header (onOwnLines (header.getD "")) := by
  cases header with
  | none => exact .none
  | some text =>
    rw [Option.getD_some, onOwnLines]
    by_cases hne : text = ""
    · subst hne
      exact .empty
    by_cases hend : text.toList.getLast? = some '\n'
    · rw [if_pos (.inr hend)]
      exact .ended hend
    · rw [if_neg (by simp [hne, hend])]
      exact .completed hne hend

/-- The writer of the stubs: the text above them and the first line, then the declared globals one
after the other, and last the loader. -/
def stubsWriter (registry : Registry) (above : String) (tree : Tree) : Writer :=
  let opened := (Writer.raw {} above).line prologue
  let declared := tree.declaredGlobals.foldl (fun w g => w.write (globalDraft registry g).lines)
    opened
  declared.write (loaderDraft registry tree.modules).lines

/-- The artifacts are put together from the entries of a documentation. -/
structure Composed (registry : Registry) (options : Options) (tree : Tree)
    (artifacts : Artifacts) : Prop where
  /-- One writer takes all parts below the header. The stubs are what stands above them, the first
  line, each global as it is written alone, and the loader. -/
  stubs : ∃ above, HeadedBy options.header above ∧
    stubsWriter registry above tree = ⟨0, artifacts.stubs⟩ ∧
    artifacts.stubs = above ++ (prologue ++ "\n") ++
      String.join (tree.declaredGlobals.map fun g => (globalDraft registry g).textAt 0) ++
      loaderText registry tree.modules
  /-- The loader is what it is alone, too. -/
  loader : (loaderDraft registry tree.modules).textAt 0 = loaderText registry tree.modules
  /-- The cache has one entry for each module. -/
  cache : cacheSection tree.modules =
    String.join (tree.modules.map fun m => (cacheEntry m).textAt 2)
  /-- The dispatcher has one case for each module. -/
  switch : switchSection registry tree.modules =
    String.join (tree.modules.map fun m => (caseDraft registry m).textAt 3)
  /-- What is noticed is noticed about one entry after the other. -/
  diagnostics : artifacts.diagnostics =
    tree.declaredGlobals.flatMap (fun g => (globalDraft registry g).diagnostics) ++
      tree.modules.flatMap (fun m => (caseDraft registry m).diagnostics) ++
      tree.modules.flatMap fun m => (DocTable.entry options.table.format.style m).2

theorem stubsText_stubsLines (registry : Registry) (header : Option String) {tree : Tree}
    (h : tree.violations = []) :
    stubsText header (stubsLines registry tree) =
      onOwnLines (header.getD "") ++ (prologue ++ "\n") ++
        String.join (tree.declaredGlobals.map fun g => (globalDraft registry g).textAt 0) ++
        loaderText registry tree.modules := by
  obtain ⟨hg, hm⟩ := tree.violations_eq_nil_iff.1 h
  have hprologue : render 0 [⟨0, prologue⟩] = prologue ++ "\n" := by decide
  have hglobals : render 0 (tree.declaredGlobals.flatMap (globalLines registry)) =
      String.join (tree.declaredGlobals.map fun g => (globalDraft registry g).textAt 0) := by
    rw [render_flatMap]
    congr 1
    refine List.map_congr_left fun g hmem => ?_
    rw [(writes_globalDraft (hg g hmem)).textAt_eq]
  have hlines : stubsLines registry tree = [⟨0, prologue⟩] ++
      tree.declaredGlobals.flatMap (globalLines registry) ++ loaderLines registry tree.modules := by
    simp [stubsLines]
  rw [stubsText, hlines, render_append, render_append, hprologue, hglobals,
    render_loaderLines registry hm]
  simp only [String.append_assoc]

theorem composed_of_violations_eq_nil (registry : Registry) (options : Options) {tree : Tree}
    (h : tree.violations = []) :
    ∃ artifacts, generateWith registry options tree = .ok artifacts ∧
      Composed registry options tree artifacts := by
  obtain ⟨hg, hm⟩ := tree.violations_eq_nil_iff.1 h
  have hstubs := stubsText_stubsLines registry options.header h
  have hloader : (loaderDraft registry tree.modules).textAt 0 =
      loaderText registry tree.modules := by
    rw [(writes_loaderDraft registry hm).textAt_eq, render_loaderLines registry hm]
  have hprologue : indentedLine 0 prologue = prologue ++ "\n" := by decide
  have hglobals : tree.declaredGlobals.flatMap (scopeNotes .global noBody) =
      tree.declaredGlobals.flatMap fun g => (globalDraft registry g).diagnostics :=
    List.flatMap_congr fun g hmem => (writes_globalDraft (hg g hmem)).diagnostics_eq.symm
  have hmodules : modulesNotes tree.modules =
      tree.modules.flatMap fun m => (caseDraft registry m).diagnostics :=
    List.flatMap_congr fun m hmem => (writes_caseDraft registry (hm m hmem)).diagnostics_eq.symm
  refine ⟨_, generateWith_eq_ok h, ⟨_, headedBy_onOwnLines options.header, ?_, hstubs⟩, hloader,
    cacheSection_eq tree.modules, switchSection_eq registry hm, ?_⟩
  · have hopened : (Writer.raw {} (onOwnLines (options.header.getD ""))).line prologue =
        ⟨0, onOwnLines (options.header.getD "") ++ (prologue ++ "\n")⟩ := by
      rw [Writer.line, Writer.output_raw, String.empty_append]
      show (⟨0, _ ++ indentedLine 0 prologue⟩ : Writer) = _
      rw [hprologue]
    rw [Draft.textAt_eq] at hloader
    unfold stubsWriter
    rw [hopened, hstubs]
    simp only [Writer.foldl_write]
    rw [Writer.write_eq, hloader]
  · show stubsNotes tree ++ (DocTable.emit options.table tree.modules).2 = _
    rw [stubsNotes, hglobals, hmodules]
    rfl

/-! ### Additions without effect -/

/-- A generation looks at the modules and the declared globals alone. -/
theorem generateWith_congr {registry : Registry} {options : Options} {t u : Tree}
    (hm : t.modules = u.modules) (hg : t.declaredGlobals = u.declaredGlobals) :
    generateWith registry options t = generateWith registry options u := by
  unfold generateWith stubsDraft
  rw [hm, hg]

/-- A section that is not the first one of the globals' name declares nothing. -/
theorem declaredGlobals_addSection {before after : List Section} {s : Section}
    (h : s.name = globalsSectionName → ∃ t ∈ before, t.name = globalsSectionName)
    (modules : List Module) :
    (⟨modules, before ++ s :: after⟩ : Tree).declaredGlobals =
      (⟨modules, before ++ after⟩ : Tree).declaredGlobals := by
  have hfind : (before ++ s :: after).find? (·.name == globalsSectionName) =
      (before ++ after).find? (·.name == globalsSectionName) := by
    rw [List.find?_append, List.find?_append]
    by_cases hs : s.name = globalsSectionName
    · -- the search ends in front of the section
      obtain ⟨t, ht, hname⟩ := h hs
      cases hb : before.find? (·.name == globalsSectionName) with
      | some u => rfl
      | none => exact absurd hname (by simpa using List.find?_eq_none.1 hb t ht)
    · rw [List.find?_cons_of_neg (by simpa using hs)]
  unfold Tree.declaredGlobals
  rw [hfind]

/-- A global without members is not declared. -/
theorem declaredGlobals_addGlobal {before after : List Section} {s : Section} {g : Module}
    {earlier later : List Module} (hs : s.globals.getD [] = earlier ++ later)
    (hg : g.hasMembers = false) (modules : List Module) :
    (⟨modules, before ++ { s with globals := some (earlier ++ g :: later) } :: after⟩ :
        Tree).declaredGlobals =
      (⟨modules, before ++ s :: after⟩ : Tree).declaredGlobals := by
  unfold Tree.declaredGlobals
  rw [List.find?_append, List.find?_append]
  cases before.find? (·.name == globalsSectionName) with
  | some u => rfl
  | none =>
    by_cases hname : s.name = globalsSectionName
    · rw [List.find?_cons_of_pos (by simpa using hname),
        List.find?_cons_of_pos (by simpa using hname)]
      simp [hs, List.filter_cons_of_neg, hg]
    · rw [List.find?_cons_of_neg (by simpa using hname),
        List.find?_cons_of_neg (by simpa using hname)]

/-- A generation gives artifacts that are put together entry by entry. The sections of the loader
grow with the modules; another order of the modules is another order of their blocks; and neither
a global without members nor a section that declares no globals changes anything. -/
theorem generateWith_composed {registry : Registry} {options : Options} {tree : Tree}
    {artifacts : Artifacts} (h : generateWith registry options tree = .ok artifacts) :
    Composed registry options tree artifacts ∧
    (∀ xs ys, tree.modules = xs ++ ys →
      cacheSection tree.modules = cacheSection xs ++ cacheSection ys ∧
      switchSection registry tree.modules =
        switchSection registry xs ++ switchSection registry ys) ∧
    (∀ modules, modules.Perm tree.modules → ∃ permuted,
      generateWith registry options { tree with modules } = .ok permuted ∧
      Composed registry options { tree with modules } permuted) ∧
    (∀ before s after earlier g later, tree.sections = before ++ s :: after →
      s.globals.getD [] = earlier ++ later → g.hasMembers = false →
      generateWith registry options { tree with
        sections := before ++ { s with globals := some (earlier ++ g :: later) } :: after } =
          .ok artifacts) ∧
    (∀ before s after, tree.sections = before ++ after →
      (s.name = globalsSectionName → ∃ t ∈ before, t.name = globalsSectionName) →
      generateWith registry options { tree with sections := before ++ s :: after } =
        .ok artifacts) := by
  have hnone : tree.violations = [] :=
    (stopsAt_generateWith registry options tree).exists_ok_iff.1 ⟨artifacts, h⟩
  obtain ⟨hg, hm⟩ := tree.violations_eq_nil_iff.1 hnone
  obtain ⟨_, hok, hcomposed⟩ := composed_of_violations_eq_nil registry options hnone
  obtain rfl := Except.ok.inj (hok.symm.trans h)
  refine ⟨hcomposed, ?_, ?_, ?_, ?_⟩
  · intro xs ys hxy
    rw [hxy] at hm ⊢
    exact ⟨cacheSection_append xs ys, switchSection_append registry hm⟩
  · intro modules hperm
    have hnone' : ({ tree with modules } : Tree).violations = [] :=
      (Tree.violations_eq_nil_iff _).2 ⟨hg, fun m hmem => hm m (hperm.subset hmem)⟩
    exact composed_of_violations_eq_nil registry options hnone'
  · intro before s after earlier g later hsections hs hmembers
    rw [← h]
    refine generateWith_congr rfl ?_
    rw [declaredGlobals_addGlobal hs hmembers, ← hsections]
  · intro before s after hsections hs
    rw [← h]
    refine generateWith_congr rfl ?_
    rw [declaredGlobals_addSection hs, ← hsections]

/-- A section of globals. -/
def globalsSection (globals : List Module) : Section := ⟨globalsSectionName, some globals⟩

def consoleGlobal : Module := { name := "console", events := some [] }

def processGlobal : Module := { name := "process", events := some [] }

/-- Two modules and a declared global. -/
def pairTree : Tree :=
  { modules := [{ name := "net", methods := some [{ name := "createServer", signatures := [{}] }] },
                { name := "tls_(ssl)", properties := some [{ name := "SLAB_BUFFER_SIZE" }] }]
    sections := [globalsSection [consoleGlobal]] }

/-- The modules may be turned round, and a global without members or a second section of globals
changes nothing. -/
theorem generateWith_composed_pairTree :
    ∃ artifacts, generateWith .empty {} pairTree = .ok artifacts ∧
      Composed .empty {} pairTree artifacts ∧
      cacheSection pairTree.modules =
        "        \"net\": null,\n" ++ "        \"tls\": null,\n" ∧
      (∃ turned, generateWith .empty {}
        { pairTree with modules := pairTree.modules.reverse } = .ok turned) ∧
      generateWith .empty {}
        { pairTree with sections := [globalsSection [consoleGlobal, { name := "__dirname" }]] } =
          .ok artifacts ∧
      generateWith .empty {}
        { pairTree with sections := [globalsSection [consoleGlobal],
          globalsSection [processGlobal]] } = .ok artifacts := by
  have hnone : pairTree.violations = [] := by decide
  obtain ⟨artifacts, h⟩ := (stopsAt_generateWith .empty {} pairTree).exists_ok_iff.2 hnone
  obtain ⟨hcomposed, happend, hperm, hglobal, hsection⟩ := generateWith_composed h
  refine ⟨artifacts, h, hcomposed, ?_, ?_, ?_, ?_⟩
  · rw [(happend [_] [_] rfl).1]
    decide
  · obtain ⟨turned, hturned, -⟩ := hperm _ (List.reverse_perm pairTree.modules)
    exact ⟨turned, hturned⟩
  · exact hglobal [] _ [] [_] { name := "__dirname" } [] rfl rfl rfl
  · exact hsection pairTree.sections _ [] rfl fun _ => ⟨_, List.mem_singleton.2 rfl, rfl⟩

end ApiStubs
