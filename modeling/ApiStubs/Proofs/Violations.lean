import ApiStubs.Artifacts
import Mathlib.Data.List.TakeWhile

/-!
# The violations of a documentation

The generation ends at the first violation, in the order in which the stubs are written. Here the
violations of a documentation are listed by its entries alone, and the generation is shown to end
exactly at the head of that list.

* `scopeViolations`, `Tree.violations`: the violations in the order of writing;
* `StopsAt`: work that meets a list of violations ends with the first of them;
* `stopsAt_methodDraft`, `stopsAt_classDraft`, `stopsAt_moduleDraft`, `stopsAt_globalDraft`: one
  statement for each kind of entry, assembled in `stopsAt_stubsDraft`;
* `Tree.bare`: the part of a documentation that can hold a violation.
-/

namespace ApiStubs

open Doc Inference

variable {α β : Type}

/-! ### Ending at the first violation -/

/-- The result of work that meets these violations in this order. -/
def StopsAt (result : Except Violation α) : List Violation → Prop
  | [] => ∃ a, result = .ok a
  | v :: _ => result = .error v

theorem stopsAt_ok (a : α) : StopsAt (.ok a) [] := ⟨a, rfl⟩

theorem StopsAt.bind {x : Except Violation α} {f : α → Except Violation β}
    {vs ws : List Violation} (hx : StopsAt x vs) (hf : ∀ a, x = .ok a → StopsAt (f a) ws) :
    StopsAt (x.bind f) (vs ++ ws) := by
  cases vs with
  | nil =>
    obtain ⟨a, rfl⟩ := hx
    exact hf a rfl
  | cons v vs =>
    have hx : x = .error v := hx
    rw [hx]
    rfl

/-- Nothing is met after `x`. -/
theorem StopsAt.bind_ok {x : Except Violation α} {f : α → Except Violation β}
    {vs : List Violation} (hx : StopsAt x vs) (hf : ∀ a, x = .ok a → ∃ b, f a = .ok b) :
    StopsAt (x.bind f) vs := by
  have hf : ∀ a, x = .ok a → StopsAt (f a) [] := hf
  simpa using hx.bind hf

theorem StopsAt.map {x : Except Violation α} {vs : List Violation} (hx : StopsAt x vs)
    (f : α → β) : StopsAt (x.map f) vs := by
  cases vs with
  | nil =>
    obtain ⟨a, rfl⟩ := hx
    exact ⟨f a, rfl⟩
  | cons v vs =>
    have hx : x = .error v := hx
    rw [hx]
    rfl

theorem StopsAt.exists_ok_iff {x : Except Violation α} {vs : List Violation}
    (hx : StopsAt x vs) : (∃ a, x = .ok a) ↔ vs = [] := by
  cases vs with
  | nil => exact iff_of_true hx rfl
  | cons v vs =>
    have hx : x = .error v := hx
    simp [hx]

theorem StopsAt.eq_ok_iff {x : Except Violation Unit} {vs : List Violation} (hx : StopsAt x vs) :
    x = .ok () ↔ vs = [] := by
  rw [← hx.exists_ok_iff]
  exact ⟨fun h => ⟨(), h⟩, fun ⟨_, h⟩ => h⟩

theorem StopsAt.error_iff {x : Except Violation α} {vs : List Violation} {v : Violation}
    (hx : StopsAt x vs) : x = .error v ↔ vs.head? = some v := by
  cases vs with
  | nil =>
    obtain ⟨a, rfl⟩ := hx
    simp
  | cons w vs =>
    have hx : x = .error w := hx
    simp [hx]

theorem stopsAt_mapM {f : α → Except Violation β} {g : α → List Violation} {as : List α}
    (h : ∀ a ∈ as, StopsAt (f a) (g a)) : StopsAt (as.mapM f) (as.flatMap g) := by
  induction as with
  | nil => exact ⟨[], rfl⟩
  | cons a as ih =>
    rw [List.mapM_cons, List.flatMap_cons]
    refine StopsAt.bind (h a (by simp)) fun b _ => ?_
    exact (ih fun a ha => h a (by simp [ha])).map (b :: ·)

theorem stopsAt_each {f : α → Draft Unit} {g : α → List Violation} {as : List α}
    (h : ∀ a ∈ as, StopsAt (f a).result (g a)) :
    StopsAt (Draft.each f as).result (as.flatMap g) := by
  induction as with
  | nil => exact ⟨(), rfl⟩
  | cons a as ih =>
    show StopsAt (f a >>= fun _ => Draft.each f as).result _
    rw [Draft.result_bind, List.flatMap_cons]
    exact StopsAt.bind (h a (by simp)) fun _ _ => ih fun a ha => h a (by simp [ha])

/-! ### Drafts that never fail -/

@[simp] theorem Draft.result_ofExcept (x : Except Violation α) :
    (Draft.ofExcept x).result = x := rfl

@[simp] theorem Draft.result_block (text : String) : (Draft.block text).result = .ok () := rfl

@[simp] theorem Draft.result_note (d : Diagnostic) : (Draft.note d).result = .ok () := rfl

theorem Draft.result_each_of_ok {f : α → Draft Unit} {as : List α}
    (h : ∀ a ∈ as, (f a).result = .ok ()) : (Draft.each f as).result = .ok () := by
  have hs : StopsAt (Draft.each f as).result (as.flatMap fun _ => []) :=
    stopsAt_each fun a ha => ⟨(), h a ha⟩
  rw [show (as.flatMap fun _ => ([] : List Violation)) = [] by simp] at hs
  obtain ⟨_, hs⟩ := hs
  exact hs

namespace Stub

@[simp] theorem result_summary (desc : Option String) : (summary desc).result = .ok () := by
  cases desc <;> rfl

@[simp] theorem result_returnDraft (r : Option Return) : (returnDraft r).result = .ok () := by
  cases r with
  | none => rfl
  | some r =>
    rw [returnDraft]
    split <;> rfl

@[simp] theorem result_signatureDraft (s : Signature) : (signatureDraft s).result = .ok () := by
  rw [signatureDraft]
  split
  · rfl
  · have hp : (Draft.each (fun p => .line (paramLine p)) s.params).result = .ok () :=
      Draft.result_each_of_ok fun _ _ => rfl
    simp [hp, Except.bind]

@[simp] theorem result_factoryDraft (container method : String) (classes : List Scope)
    (target : String) : (factoryDraft container method classes target).result = .ok () := by
  rw [factoryDraft]
  split <;> rfl

@[simp] theorem result_bodyDraft (byHand : String → Option String) (container : String)
    (classes : List Scope) (m : Method) :
    (bodyDraft byHand container classes m).result = .ok () := by
  rw [bodyDraft]
  split
  · rfl
  · split
    · simp
    · rfl

@[simp] theorem result_listenerDraft (name params : String) (comment : List String) :
    (listenerDraft name params comment).result = .ok () := by
  rw [listenerDraft]
  split
  · rfl
  · have hc : (Draft.each .line comment).result = .ok () := Draft.result_each_of_ok fun _ _ => rfl
    simp [hc, Except.bind]

@[simp] theorem result_eventsDraft? (events : Option (List Doc.Event)) :
    (eventsDraft? events).result = .ok () := by
  cases events with
  | none => rfl
  | some events => simp [eventsDraft?, eventsDraft, Except.bind]

@[simp] theorem result_fieldDraft (p : Property) : (fieldDraft p).result = .ok () := by
  rw [fieldDraft]
  split <;> rfl

@[simp] theorem result_frame (lead name trail : String) (body : Draft Unit) :
    (frame lead name trail body).result = body.result := by
  cases h : body.result <;> simp [frame, h, Except.bind]

/-! ### The violations of an entry -/

/-- A name that leaves no identifier. -/
def nameViolations (container raw : String) : List Violation :=
  if Name.identifier raw = "" then [.emptyIdentifier container raw] else []

/-- The violation of the name of a scope itself. -/
def Role.nameViolations (raw : String) : Role → List Violation
  | .module => Stub.nameViolations rootContainer raw
  | .global => Stub.nameViolations "" raw
  | .nested =>
    if Name.classIdentifier? raw = none then [.emptyIdentifier classContainer raw] else []

/-- The container that the violations of the members of a scope name: its function. -/
def Role.container (raw : String) : Role → String
  | .module => Name.identifier raw
  | .global => "__" ++ Name.identifier raw
  | .nested => "_" ++ Name.className raw

/-- A method: its name, then its lack of signatures, then the parameters that have a place of their
own in the first signature. -/
def methodViolations (container : String) (m : Method) : List Violation :=
  nameViolations container m.name ++
    match m.signatures with
    | [] => [.missingSignatures container m.name]
    | first :: _ => first.positional.flatMap fun p => nameViolations container p.name

/-- The members of a scope: methods, what stands between, properties. Events have none. -/
def membersViolations (container : String) (s : Scope) (between : List Violation) :
    List Violation :=
  (s.methods.getD []).flatMap (methodViolations container) ++ between ++
    (s.properties.getD []).flatMap fun p => nameViolations container p.name

/-- A class: its own name, then its members. -/
def classViolations (c : Scope) : List Violation :=
  Role.nested.nameViolations c.name ++ membersViolations (Role.nested.container c.name) c []

/-- A module or global object: its own name, then its members, the classes before the properties. -/
def scopeViolations (role : Role) (m : Module) : List Violation :=
  role.nameViolations m.name ++
    membersViolations (role.container m.name) m.toScope
      ((m.classes.getD []).flatMap classViolations)

/-! ### Each entry stops at its first violation -/

theorem stopsAt_memberName (container raw : String) :
    StopsAt (memberName container raw) (nameViolations container raw) := by
  rw [memberName, nameViolations]
  split
  · rfl
  · exact stopsAt_ok _

theorem stopsAt_className (raw : String) :
    StopsAt (className raw) (Role.nested.nameViolations raw) := by
  rw [className, Role.nameViolations]
  cases Name.classIdentifier? raw with
  | none => rfl
  | some name => exact stopsAt_ok name

theorem stopsAt_functionName (role : Role) (raw : String) :
    StopsAt (role.functionName raw) (role.nameViolations raw) := by
  cases role with
  | module => exact stopsAt_memberName rootContainer raw
  | global => exact (stopsAt_memberName "" raw).map _
  | nested => exact (stopsAt_className raw).map _

/-- A function that has a name has the one by which violations name it. -/
theorem eq_container_of_functionName {role : Role} {raw name : String}
    (h : role.functionName raw = .ok name) : name = role.container raw := by
  cases role with
  | module => exact (memberName_eq_ok_iff.1 h).1.symm
  | global =>
    simp only [Role.functionName, memberName] at h
    split at h
    · cases h
    · exact (Except.ok.inj h).symm
  | nested =>
    simp only [Role.functionName, className] at h
    split at h
    · next c hc =>
      have hc : Name.className raw = c := by
        simp only [Name.classIdentifier?] at hc
        split at hc
        · exact Option.some.inj hc
        · cases hc
      rw [Role.container, hc]
      exact (Except.ok.inj h).symm
    · cases h

theorem stopsAt_parameterNames (container : String) (s : Signature) :
    StopsAt (parameterNames container s)
      (s.positional.flatMap fun p => nameViolations container p.name) :=
  stopsAt_mapM fun p _ => stopsAt_memberName container p.name

theorem stopsAt_methodDraft (byHand : String → Option String) (container : String)
    (classes : List Scope) (m : Method) :
    StopsAt (methodDraft byHand container classes m).result (methodViolations container m) := by
  rw [methodDraft, Draft.result_bind, Draft.result_ofExcept]
  refine (stopsAt_memberName container m.name).bind fun name _ => ?_
  cases m.signatures with
  | nil => rfl
  | cons first later =>
    rw [Draft.result_bind, Draft.result_ofExcept]
    refine (stopsAt_parameterNames container first).bind_ok fun params _ => ⟨(), ?_⟩
    have hs : (Draft.each signatureDraft (first :: later)).result = .ok () :=
      Draft.result_each_of_ok fun s _ => result_signatureDraft s
    simp [hs, Except.bind]

theorem stopsAt_propertyDraft (container : String) (specializer : Option Specializer)
    (p : Property) :
    StopsAt (propertyDraft container specializer p).result (nameViolations container p.name) := by
  rw [propertyDraft, Draft.result_bind, Draft.result_ofExcept]
  refine (stopsAt_memberName container p.name).bind_ok fun name _ => ⟨(), ?_⟩
  simp [Except.bind]

theorem stopsAt_membersDraft {between : Draft Unit} {vs : List Violation}
    (hb : StopsAt between.result vs) (name : String) (byHand : String → Option String)
    (classes : List Scope) (specializer : Option Specializer) (s : Scope) :
    StopsAt (membersDraft name byHand classes between specializer s).result
      (membersViolations name s vs) := by
  simp only [membersDraft, membersViolations, Draft.result_bind, result_summary,
    result_eventsDraft?, List.append_assoc]
  refine (stopsAt_each fun m _ => stopsAt_methodDraft byHand name classes m).bind fun _ _ => ?_
  refine hb.bind fun _ _ => ?_
  exact stopsAt_each fun p _ => stopsAt_propertyDraft name specializer p

theorem stopsAt_classDraft (c : Scope) :
    StopsAt (classDraft c).result (classViolations c) := by
  rw [classDraft, Draft.result_bind, Draft.result_ofExcept, classViolations]
  refine (stopsAt_className c.name).bind fun name hname => ?_
  have hf : Role.nested.functionName c.name = .ok ("_" ++ name) := by
    rw [Role.functionName, hname]
    rfl
  rw [Draft.result_bind, Draft.result_ofExcept, hf, eq_container_of_functionName hf]
  show StopsAt (Draft.result _) _
  rw [Draft.result_bind, result_frame]
  refine StopsAt.bind_ok (stopsAt_membersDraft (stopsAt_ok ()) ..) fun _ _ => ⟨(), ?_⟩
  simp [Except.bind]

theorem stopsAt_scopeDraft (registry : Registry) (role : Role) (byHand : String → Option String)
    (lead trail : String) (m : Module) :
    StopsAt (scopeDraft registry role byHand lead trail m).result (scopeViolations role m) := by
  rw [scopeDraft, Draft.result_bind, Draft.result_ofExcept, scopeViolations]
  refine (stopsAt_functionName role m.name).bind fun name hname => ?_
  rw [result_frame, ← eq_container_of_functionName hname]
  exact stopsAt_membersDraft (stopsAt_each fun c _ => stopsAt_classDraft c) ..

theorem stopsAt_globalDraft (registry : Registry) (g : Module) :
    StopsAt (globalDraft registry g).result (scopeViolations .global g) := by
  have hs := stopsAt_scopeDraft registry .global noBody
  rw [globalDraft, Draft.result_bind, Draft.result_ofExcept]
  cases hn : memberName "" g.name with
  | ok name => exact hs ("var " ++ name ++ " = new ") ";" g
  | error v =>
    -- the name is looked at twice, and both looks see the same
    obtain ⟨vs, hv⟩ : ∃ vs, nameViolations "" g.name = v :: vs :=
      List.head?_eq_some_iff.1 ((stopsAt_memberName "" g.name).error_iff.1 hn)
    rw [scopeViolations, Role.nameViolations, hv]
    rfl

@[simp] theorem result_cacheDraft (modules : List Module) :
    (cacheDraft modules).result = .ok () := by
  have h : (Draft.each (fun m => .line ("\"" ++ moduleLabel m ++ "\": null,")) modules).result =
      .ok () := Draft.result_each_of_ok fun _ _ => rfl
  simp [cacheDraft, h, Except.bind]

theorem result_dispatcherDraft (registry : Registry) (modules : List Module) :
    (dispatcherDraft registry modules).result =
      (Draft.each (caseDraft registry) modules).result := by
  cases h : (Draft.each (caseDraft registry) modules).result <;>
    simp [dispatcherDraft, h, Except.bind]

/-- Of the whole loader only the modules can fail. -/
theorem result_loaderDraft (registry : Registry) (modules : List Module) :
    (loaderDraft registry modules).result =
      (Draft.each (caseDraft registry) modules).result := by
  have hl : (Draft.each .line resolverLines).result = .ok () :=
    Draft.result_each_of_ok fun _ _ => rfl
  cases h : (Draft.each (caseDraft registry) modules).result <;>
    simp [loaderDraft, result_dispatcherDraft, h, hl, Except.bind]

end Stub

/-! ### The violations of a documentation -/

/-- The violations of a documentation in the order of writing: declared globals, then modules. -/
def Doc.Tree.violations (tree : Tree) : List Violation :=
  tree.declaredGlobals.flatMap (Stub.scopeViolations .global) ++
    tree.modules.flatMap (Stub.scopeViolations .module)

theorem stopsAt_stubsDraft (registry : Registry) (tree : Tree) :
    StopsAt (stubsDraft registry tree).result tree.violations := by
  simp only [stubsDraft, Draft.result_bind, Draft.result_line, Stub.result_loaderDraft]
  show StopsAt ((Draft.each (Stub.globalDraft registry) tree.declaredGlobals).result.bind _) _
  refine StopsAt.bind (stopsAt_each fun g _ => Stub.stopsAt_globalDraft registry g) fun _ _ => ?_
  exact stopsAt_each fun m _ => Stub.stopsAt_scopeDraft ..

theorem stopsAt_generateWith (registry : Registry) (options : Options) (tree : Tree) :
    StopsAt (generateWith registry options tree) tree.violations := by
  have h := stopsAt_stubsDraft registry tree
  cases hv : tree.violations with
  | nil =>
    rw [hv] at h
    obtain ⟨_, hr⟩ := h
    exact ⟨_, by rw [generateWith, hr]⟩
  | cons v vs =>
    rw [hv] at h
    have hr : (stubsDraft registry tree).result = .error v := h
    show generateWith registry options tree = .error v
    rw [generateWith, hr]

/-! ### What violations depend on -/

/-- The name of a parameter that has a place of its own; nothing else of it can be wrong. -/
def Doc.Param.bare (p : Param) : Param := { name := p.name }

/-- The parameters that have a place of their own. -/
def Doc.Signature.bare (s : Signature) : Signature := { params := s.positional.map Param.bare }

/-- The name and the first signature. -/
def Doc.Method.bare (m : Method) : Method :=
  { name := m.name, signatures := (m.signatures.take 1).map Signature.bare }

/-- The name, the methods and the names of the properties. That there are events stays, since it
declares a global object. -/
def Doc.Scope.bare (s : Scope) : Scope :=
  { name := s.name
    methods := s.methods.map (·.map Method.bare)
    events := s.events.map fun _ => []
    properties := s.properties.map (·.map fun p => { name := p.name }) }

/-- The scope and the classes. -/
def Doc.Module.bare (m : Module) : Module :=
  { m.toScope.bare with classes := m.classes.map (·.map Scope.bare) }

/-- The modules and the declared globals: no other section, and no global without members. -/
def Doc.Tree.bare (tree : Tree) : Tree :=
  { modules := tree.modules.map Module.bare
    sections :=
      [{ name := globalsSectionName, globals := some (tree.declaredGlobals.map Module.bare) }] }

theorem Doc.Signature.positional_bare (s : Signature) :
    s.bare.positional = s.positional.map Param.bare := by
  rw [positional, bare, List.takeWhile_map]
  congr 1
  exact List.takeWhile_eq_self_iff.2 fun p hp => List.mem_takeWhile_imp hp

theorem Stub.methodViolations_bare (container : String) (m : Method) :
    methodViolations container m.bare = methodViolations container m := by
  rw [methodViolations, methodViolations]
  congr 1
  cases hs : m.signatures with
  | nil => simp [Method.bare, hs]
  | cons first later =>
    simp only [Method.bare, hs, List.take_succ_cons, List.take_zero, List.map_cons, List.map_nil]
    rw [Signature.positional_bare, List.flatMap_map]
    rfl

theorem Stub.membersViolations_bare (container : String) (s : Scope) (between : List Violation) :
    membersViolations container s.bare between = membersViolations container s between := by
  have hm : (s.bare.methods.getD []).flatMap (methodViolations container) =
      (s.methods.getD []).flatMap (methodViolations container) := by
    cases h : s.methods <;> simp [Scope.bare, h, List.flatMap_map, methodViolations_bare]
  have hp : ((s.bare.properties.getD []).flatMap fun p => nameViolations container p.name) =
      (s.properties.getD []).flatMap fun p => nameViolations container p.name := by
    cases h : s.properties <;> simp [Scope.bare, h, List.flatMap_map]
  rw [membersViolations, membersViolations, hm, hp]

theorem Stub.classViolations_bare (c : Scope) : classViolations c.bare = classViolations c := by
  rw [classViolations, classViolations, membersViolations_bare]
  rfl

theorem Stub.scopeViolations_bare (role : Role) (m : Module) :
    scopeViolations role m.bare = scopeViolations role m := by
  have hc : (m.bare.classes.getD []).flatMap classViolations =
      (m.classes.getD []).flatMap classViolations := by
    cases h : m.classes <;> simp [Module.bare, h, List.flatMap_map, classViolations_bare]
  rw [scopeViolations, scopeViolations, hc]
  exact congrArg (_ ++ ·) (membersViolations_bare _ m.toScope _)

theorem Doc.Module.hasMembers_bare (m : Module) : m.bare.hasMembers = m.hasMembers := by
  simp [hasMembers, bare, Scope.bare]

theorem Doc.Tree.declaredGlobals_bare (tree : Tree) :
    tree.bare.declaredGlobals = tree.declaredGlobals.map Module.bare := by
  have hall : ∀ g ∈ tree.declaredGlobals, g.hasMembers = true := by
    intro g hg
    rw [declaredGlobals] at hg
    split at hg
    · exact (List.mem_filter.1 hg).2
    · simp at hg
  simpa [declaredGlobals, bare, Module.hasMembers_bare] using hall

theorem Doc.Tree.violations_bare (tree : Tree) : tree.bare.violations = tree.violations := by
  have hm : tree.bare.modules.flatMap (Stub.scopeViolations .module) =
      tree.modules.flatMap (Stub.scopeViolations .module) := by
    simp [bare, List.flatMap_map, Stub.scopeViolations_bare]
  rw [violations, violations, hm, declaredGlobals_bare, List.flatMap_map]
  simp [Stub.scopeViolations_bare]

theorem Doc.Tree.violations_eq_nil_iff (tree : Tree) :
    tree.violations = [] ↔
      (∀ g ∈ tree.declaredGlobals, Stub.scopeViolations .global g = []) ∧
        ∀ m ∈ tree.modules, Stub.scopeViolations .module m = [] := by
  simp [violations, List.append_eq_nil_iff, List.flatMap_eq_nil_iff]

/-- The generation succeeds exactly if no declared global and no module holds a violation, and
otherwise ends with the first one in the order of writing. Which one that is depends on the bare
documentation alone: not on events, further signatures, parameters without a place of their own,
undeclared globals, other sections, the options or the registry. -/
theorem generateWith_ends_at_first_violation (registry : Registry) (options : Options)
    (tree : Tree) :
    ((∃ artifacts, generateWith registry options tree = .ok artifacts) ↔
      (∀ g ∈ tree.declaredGlobals, Stub.scopeViolations .global g = []) ∧
        ∀ m ∈ tree.modules, Stub.scopeViolations .module m = []) ∧
    (∀ v, generateWith registry options tree = .error v ↔ tree.violations.head? = some v) ∧
    ∀ registry' options' v, generateWith registry options tree = .error v ↔
      generateWith registry' options' tree.bare = .error v := by
  have h := stopsAt_generateWith registry options tree
  refine ⟨?_, fun v => h.error_iff, fun registry' options' v => ?_⟩
  · rw [← tree.violations_eq_nil_iff]
    exact h.exists_ok_iff
  · have hb := stopsAt_generateWith registry' options' tree.bare
    rw [Doc.Tree.violations_bare] at hb
    rw [h.error_iff, hb.error_iff]

end ApiStubs
