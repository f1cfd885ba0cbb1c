import ApiStubs.Proofs.Composition

/-!
# Where the runtime shows

The stubs describe the process object of one runtime. A scope is known as the process object by the
name of its function, and then its properties `versions` and `platform` get values of the runtime,
unless their documentation gives a type. Nothing else follows the runtime. A global object has a
function of this name if it is called `process`; a module has one if it is called `__process`.

* `Property.showsRuntime`, `showsRuntime`: the properties and scopes that follow the runtime;
* `Shows`: a text that follows the runtime, or is the same for all, closed under `++` and `join`;
* `Confined`: a scope that follows the runtime in the values of its properties alone;
* `generate_follows_runtime`: so it is in all artifacts;
* `generate_processModule`: a module that follows the runtime.
-/

namespace ApiStubs

open Doc Inference Stub

variable {α : Type}

/-! ### Texts that follow the runtime -/

namespace Inference.Runtime

/-- A runtime of which nothing is said. -/
def blank : Runtime := ⟨"", "", ""⟩

/-- A runtime of which something is said. -/
def filled : Runtime := ⟨"0", "0", "0"⟩

end Inference.Runtime

/-- The text shows the runtime, or else is the same for all runtimes. A text that shows the runtime
is longer when more is said of it, so that no two changes can cancel each other. -/
structure Shows (text : Runtime → String) (shown : Bool) : Prop where
  same : shown = false → ∀ r r', text r = text r'
  longer : shown = true → (text .blank).length < (text .filled).length

namespace Shows

variable {s t : Runtime → String} {a b : Bool}

theorem const (text : String) : Shows (fun _ => text) false := ⟨fun _ _ _ => rfl, nofun⟩

theorem length_le (h : Shows s a) : (s .blank).length ≤ (s .filled).length := by
  cases a with
  | false => rw [h.same rfl .blank .filled]
  | true => exact Nat.le_of_lt (h.longer rfl)

theorem constant_iff (h : Shows s a) : (∀ r r', s r = s r') ↔ a = false := by
  constructor
  · intro hs
    cases a with
    | false => rfl
    | true =>
      have hlt := h.longer rfl
      rw [hs .blank .filled] at hlt
      exact absurd hlt (Nat.lt_irrefl _)
  · exact h.same

theorem append (hs : Shows s a) (ht : Shows t b) : Shows (fun r => s r ++ t r) (a || b) where
  same h r r' := by
    obtain ⟨ha, hb⟩ := Bool.or_eq_false_iff.1 h
    rw [hs.same ha r r', ht.same hb r r']
  longer h := by
    rw [String.length_append, String.length_append]
    rcases Bool.or_eq_true_iff.1 h with ha | hb
    · exact Nat.add_lt_add_of_lt_of_le (hs.longer ha) ht.length_le
    · exact Nat.add_lt_add_of_le_of_lt hs.length_le (ht.longer hb)

theorem join {f : α → Runtime → String} {shown : α → Bool} {as : List α}
    (h : ∀ a ∈ as, Shows (f a) (shown a)) :
    Shows (fun r => String.join (as.map fun a => f a r)) (as.any shown) := by
  induction as with
  | nil => exact const ""
  | cons a as ih =>
    have ha : Shows (f a) (shown a) := h a (by simp)
    simp only [List.map_cons, String.join_cons, List.any_cons]
    exact ha.append (ih fun b hb => h b (by simp [hb]))

end Shows

/-! ### Values of properties -/

/-- The properties of the process object that have values of the runtime. -/
def runtimeProperties : List String := ["versions", "platform"]

/-- The property has a value of the runtime in the process object: it is one of those, and its
documentation gives no type. -/
def Doc.Property.showsRuntime (p : Property) : Bool :=
  runtimeProperties.contains p.name &&
    (describedLiteral? (p.desc.getD "") (p.textRaw.getD "")).isNone &&
    (signatureLiteral? (p.textRaw.getD "")).isNone

theorem specializer_congr {name : String} (h : name ∉ runtimeProperties) (r r' : Runtime) :
    r.specializer name = r'.specializer name := by
  unfold Runtime.specializer
  split
  case h_2 => exact absurd (by decide) h
  case h_5 => exact absurd (by decide) h
  all_goals rfl

theorem inferDefault_of_showsRuntime {p : Property} (h : p.showsRuntime = true)
    (specializer : Option Specializer) :
    inferDefault p.name (p.desc.getD "") (p.textRaw.getD "") specializer =
      (specializer.bind fun s => s p.name).getD undefinedLiteral := by
  obtain ⟨h, hs⟩ := Bool.and_eq_true_iff.1 h
  obtain ⟨-, hd⟩ := Bool.and_eq_true_iff.1 h
  rw [inferDefault, Option.isNone_iff_eq_none.1 hd, Option.isNone_iff_eq_none.1 hs]

theorem inferDefault_congr {p : Property} (h : p.showsRuntime = false) (r r' : Runtime) :
    inferDefault p.name (p.desc.getD "") (p.textRaw.getD "") (some r.specializer) =
      inferDefault p.name (p.desc.getD "") (p.textRaw.getD "") (some r'.specializer) := by
  unfold inferDefault
  cases hd : describedLiteral? (p.desc.getD "") (p.textRaw.getD "") with
  | some literal => rfl
  | none =>
    cases hs : signatureLiteral? (p.textRaw.getD "") with
    | some literal => rfl
    | none =>
      have hname : p.name ∉ runtimeProperties := by
        simpa [Property.showsRuntime, hd, hs] using h
      show (r.specializer p.name).getD undefinedLiteral = _
      rw [specializer_congr hname r r']
      rfl

theorem shows_inferDefault (p : Property) :
    Shows (fun r =>
      inferDefault p.name (p.desc.getD "") (p.textRaw.getD "") (some r.specializer))
      p.showsRuntime where
  same := inferDefault_congr
  longer h := by
    have hname : p.name ∈ runtimeProperties := by
      simpa using (Bool.and_eq_true_iff.1 (Bool.and_eq_true_iff.1 h).1).1
    rw [inferDefault_of_showsRuntime h, inferDefault_of_showsRuntime h]
    rcases List.mem_pair.1 hname with hp | hp <;> rw [hp] <;> decide

namespace Stub

/-! ### Scopes -/

theorem indentedLine_of_head? {text : String} {c : Char} (h : text.toList.head? = some c)
    (depth : Nat) :
    indentedLine depth text =
      String.ofList (List.replicate (depth * indentWidth) ' ') ++ text ++ "\n" := by
  rw [indentedLine, if_neg]
  rintro rfl
  simp at h

theorem shows_propertyDraft {container : String} {p : Property}
    (h : nameViolations container p.name = []) (depth : Nat) :
    Shows (fun r => (propertyDraft container (some r.specializer) p).textAt depth)
      p.showsRuntime := by
  have htext (r : Runtime) : (propertyDraft container (some r.specializer) p).textAt depth =
      render depth (fieldLines p) ++
        (String.ofList (List.replicate (depth * indentWidth) ' ') ++
          valueLine (some r.specializer) p ++ "\n") := by
    rw [(writes_propertyDraft h).textAt_eq, propertyLines, render_append,
      ← indentedLine_of_head? (head?_valueLine (some r.specializer) p)]
    simp [render, String.join_cons]
  have hvalue : Shows (fun r => valueLine (some r.specializer) p) p.showsRuntime := by
    have hall := ((Shows.const ("this." ++ Name.identifier p.name ++ " = ")).append
      (shows_inferDefault p)).append (Shows.const ";")
    simpa [valueLine] using hall
  have hall := (Shows.const (render depth (fieldLines p))).append <|
    ((Shows.const (String.ofList (List.replicate (depth * indentWidth) ' '))).append
      hvalue).append (Shows.const "\n")
  simpa [htext] using hall

/-- A scope above its classes. -/
def openingText (depth : Nat) (role : Role) (byHand : String → Option String) (lead : String)
    (m : Module) : String :=
  render depth [⟨0, lead ++ "function " ++ role.container m.name ++ "() \x7b"⟩] ++
    render (depth + 1) (summaryLines m.desc ++
      (m.methods.getD []).flatMap (methodLines byHand) ++ m.events.elim [] eventsLines)

/-- The classes of a scope. -/
def classesText (depth : Nat) (m : Module) : String :=
  String.join ((m.classes.getD []).map fun c => (classDraft c).textAt depth)

/-- The properties of a scope. -/
def propertiesText (depth : Nat) (container : String) (specializer : Option Specializer)
    (m : Module) : String :=
  String.join ((m.properties.getD []).map fun p =>
    (propertyDraft container specializer p).textAt depth)

/-- A scope is what stands above its classes, its classes, its properties, and one more line. -/
theorem textAt_scopeDraft {registry : Registry} {role : Role} {byHand : String → Option String}
    {lead trail : String} {m : Module} (h : scopeViolations role m = []) (depth : Nat) :
    (scopeDraft registry role byHand lead trail m).textAt depth =
      openingText depth role byHand lead m ++ classesText (depth + 1) m ++
        propertiesText (depth + 1) (role.container m.name)
          (registry.get? (role.container m.name)) m ++
        render depth [⟨0, "\x7d" ++ trail⟩] := by
  obtain ⟨-, hclasses, hproperties⟩ :=
    membersViolations_eq_nil_iff.1 (List.append_eq_nil_iff.1 h).2
  have hc : render (depth + 1) ((m.classes.getD []).flatMap classLines) =
      classesText (depth + 1) m := by
    rw [render_flatMap, classesText]
    congr 1
    refine List.map_congr_left fun c hmem => ?_
    rw [(writes_classDraft (List.flatMap_eq_nil_iff.1 hclasses c hmem)).textAt_eq]
  have hp (specializer : Option Specializer) :
      render (depth + 1) ((m.properties.getD []).flatMap (propertyLines specializer)) =
        propertiesText (depth + 1) (role.container m.name) specializer m := by
    rw [render_flatMap, propertiesText]
    congr 1
    refine List.map_congr_left fun p hmem => ?_
    rw [(writes_propertyDraft (hproperties p hmem)).textAt_eq]
  have hlines : scopeLines registry role byHand lead trail m =
      [⟨0, lead ++ "function " ++ role.container m.name ++ "() \x7b"⟩] ++
        (scopeBody registry role byHand m).map Line.deeper ++ [⟨0, "\x7d" ++ trail⟩] := by
    simp [scopeLines, frameLines]
  rw [(writes_scopeDraft h).textAt_eq, hlines, render_append, render_append, render_deeper,
    scopeBody, membersLines, render_append, render_append, hc, hp, openingText]
  simp only [String.append_assoc]

/-- By default the process object alone is known. -/
theorem get?_ofRuntime (r : Runtime) (container : String) :
    (Registry.ofRuntime r).get? container =
      if container = processContainer then some r.specializer else none := rfl

/-- The scope follows the runtime: it has the function name of the process object and a property
with a value of the runtime. -/
def showsRuntime (role : Role) (m : Module) : Bool :=
  role.container m.name == processContainer &&
    (m.properties.getD []).any Property.showsRuntime

theorem shows_propertiesText {container : String} {m : Module}
    (h : ∀ p ∈ m.properties.getD [], nameViolations container p.name = []) (depth : Nat) :
    Shows (fun r => propertiesText depth container ((Registry.ofRuntime r).get? container) m)
      (container == processContainer && (m.properties.getD []).any Property.showsRuntime) := by
  simp only [get?_ofRuntime]
  by_cases hc : container = processContainer
  · -- the properties are asked one by one
    simp only [if_pos hc, beq_iff_eq.2 hc, Bool.true_and]
    exact Shows.join fun p hp => shows_propertyDraft (h p hp) depth
  · simp only [if_neg hc, beq_eq_false_iff_ne.2 hc, Bool.false_and]
    exact Shows.const _

theorem shows_scopeDraft {role : Role} {byHand : String → Option String} {lead trail : String}
    {m : Module} (h : scopeViolations role m = []) (depth : Nat) :
    Shows (fun r => (scopeDraft (.ofRuntime r) role byHand lead trail m).textAt depth)
      (showsRuntime role m) := by
  have hproperties := (membersViolations_eq_nil_iff.1 (List.append_eq_nil_iff.1 h).2).2.2
  have hall := ((Shows.const (openingText depth role byHand lead m ++
    classesText (depth + 1) m)).append (shows_propertiesText hproperties (depth + 1))).append
      (Shows.const (render depth [⟨0, "\x7d" ++ trail⟩]))
  simpa [textAt_scopeDraft h, showsRuntime] using hall

/-- The text of a scope follows the runtime in the values of its properties alone, and there only if
it is known as the process object. -/
structure Confined (role : Role) (m : Module) (depth : Nat) (text : Runtime → String) : Prop where
  /-- What stands above the properties, the classes among it, is the same for all runtimes, and so
  is what stands below. -/
  parts : ∃ above below, ∀ r, text r = above ++ classesText (depth + 1) m ++
    propertiesText (depth + 1) (role.container m.name)
      (if role.container m.name = processContainer then some r.specializer else none) m ++ below
  /-- The scope is the same for all runtimes if and only if it shows none. -/
  constant_iff : (∀ r r', text r = text r') ↔ showsRuntime role m = false

theorem confined_scopeDraft {role : Role} {byHand : String → Option String} {lead trail : String}
    {m : Module} (h : scopeViolations role m = []) (depth : Nat) :
    Confined role m depth fun r =>
      (scopeDraft (.ofRuntime r) role byHand lead trail m).textAt depth where
  parts := ⟨openingText depth role byHand lead m, render depth [⟨0, "\x7d" ++ trail⟩],
    fun _ => textAt_scopeDraft h depth⟩
  constant_iff := (shows_scopeDraft h depth).constant_iff

theorem confined_globalDraft {g : Module} (h : scopeViolations .global g = []) :
    Confined .global g 0 fun r => (globalDraft (.ofRuntime r) g).textAt 0 := by
  have hn : nameViolations "" g.name = [] := (List.append_eq_nil_iff.1 h).1
  unfold globalDraft
  simp only [Draft.ofExcept_bind (memberName_eq_ok hn)]
  exact confined_scopeDraft h 0

/-! ### The loader -/

theorem shows_loaderText {modules : List Module}
    (h : ∀ m ∈ modules, scopeViolations .module m = []) :
    Shows (fun r => loaderText (.ofRuntime r) modules) (modules.any (showsRuntime .module)) := by
  have hcases : Shows (fun r => String.join (modules.map fun m =>
      (caseDraft (.ofRuntime r) m).textAt 3)) (modules.any (showsRuntime .module)) :=
    Shows.join fun m hm => shows_scopeDraft (h m hm) 3
  have hall := ((Shows.const (render 0 loaderOpening ++ cacheSection modules ++
    render 0 loaderMiddle)).append hcases).append (Shows.const (render 0 loaderClosing))
  simpa [loaderText, switchSection_eq _ h] using hall

end Stub

/-! ### All artifacts -/

/-- Under any runtime a documentation meets the same violation, or its table and what is noticed are
the same. Its declared globals and its modules follow the runtime in the values of properties of
what is known as the process object alone. So the loader is the same for all runtimes if and only if
no module is known as the process object and has a property with a value of the runtime. -/
theorem generate_follows_runtime (options : Options) (tree : Tree) :
    (∃ violation, ∀ runtime, generate { options with runtime } tree = .error violation) ∨
    ∃ table diagnostics,
      (∀ runtime, generate { options with runtime } tree =
        .ok ⟨onOwnLines (options.header.getD "") ++ (prologue ++ "\n") ++
          String.join (tree.declaredGlobals.map fun g =>
            (globalDraft (.ofRuntime runtime) g).textAt 0) ++
          loaderText (.ofRuntime runtime) tree.modules, table, diagnostics⟩) ∧
      (∀ g ∈ tree.declaredGlobals,
        Confined .global g 0 fun r => (globalDraft (.ofRuntime r) g).textAt 0) ∧
      (∀ m ∈ tree.modules,
        Confined .module m 3 fun r => (caseDraft (.ofRuntime r) m).textAt 3) ∧
      ((∀ r r', loaderText (.ofRuntime r) tree.modules = loaderText (.ofRuntime r') tree.modules) ↔
        ∀ m ∈ tree.modules, showsRuntime .module m = false) := by
  cases hv : tree.violations with
  | cons violation later =>
    refine .inl ⟨violation, fun runtime => ?_⟩
    have hs := stopsAt_generateWith (.ofRuntime runtime) { options with runtime } tree
    rwa [hv] at hs
  | nil =>
    obtain ⟨hg, hm⟩ := tree.violations_eq_nil_iff.1 hv
    refine .inr ⟨(DocTable.emit options.table tree.modules).1,
      stubsNotes tree ++ (DocTable.emit options.table tree.modules).2, fun runtime => ?_,
      fun g hmem => confined_globalDraft (hg g hmem),
      fun m hmem => confined_scopeDraft (hm m hmem) 3, ?_⟩
    · show generateWith (.ofRuntime runtime) { options with runtime } tree = _
      rw [generateWith_eq_ok hv, stubsText_stubsLines (.ofRuntime runtime) options.header hv]
    · rw [(shows_loaderText hm).constant_iff, List.any_eq_false]
      simp only [Bool.not_eq_true]

/-- A module with the function name of the process object. -/
def processModule : Module := { name := "__process", properties := some [{ name := "platform" }] }

/-- A documentation without global objects. -/
def processModuleTree : Tree := { modules := [processModule] }

/-- The module shows the platform of the runtime, though no global object is declared. -/
theorem generate_processModule :
    ∃ first second,
      generate {} processModuleTree = .ok first ∧
      generate { runtime := { platform := "darwin" } } processModuleTree = .ok second ∧
      processModuleTree.declaredGlobals = [] ∧ first.stubs ≠ second.stubs ∧
      (caseDraft (.ofRuntime {}) processModule).lines =
        [⟨0, "case \"__process\": return new function __process() \x7b"⟩,
         ⟨1, "this.platform = 'win32';"⟩, ⟨0, "\x7d;"⟩] ∧
      (caseDraft (.ofRuntime { platform := "darwin" }) processModule).lines =
        [⟨0, "case \"__process\": return new function __process() \x7b"⟩,
         ⟨1, "this.platform = 'darwin';"⟩, ⟨0, "\x7d;"⟩] := by
  have hnone : processModuleTree.violations = [] := by decide
  refine ⟨_, _, generateWith_eq_ok hnone, generateWith_eq_ok hnone, rfl, ?_, by decide, by decide⟩
  intro he
  have hloader : loaderText (.ofRuntime {}) processModuleTree.modules =
      loaderText (.ofRuntime { platform := "darwin" }) processModuleTree.modules := by
    refine (String.append_right_inj (onOwnLines "" ++ (prologue ++ "\n") ++ "")).1 ?_
    exact (stubsText_stubsLines _ none hnone).symm.trans
      (he.trans (stubsText_stubsLines _ none hnone))
  have hswitch : switchSection (.ofRuntime {}) processModuleTree.modules =
      switchSection (.ofRuntime { platform := "darwin" }) processModuleTree.modules :=
    (String.append_right_inj _).1 ((String.append_left_inj _).1 hloader)
  revert hswitch
  decide

end ApiStubs
