import ApiStubs.Proofs.Factories
import ApiStubs.Proofs.TableReading

/-!
# What is noticed

The generation notices two things: a factory method whose class its container does not declare, and
a module whose description cannot be read. Here both are listed by the documentation alone, in the
order in which they are noticed.

* `unreadable?`: what is noticed about the description of a module;
* `stubsNotes_eq`, `emit_diagnostics`: the two halves of the list;
* `generateWith_diagnostics`: the diagnostics of a generation, and the factories behind them.
-/

namespace ApiStubs

open Doc Inference Stub

/-- What is noticed about the description of a module: it cannot be read. -/
def unreadable? (m : Module) : Option Diagnostic :=
  m.desc.bind fun desc =>
    (Fragment.read desc).fault.map (Diagnostic.unparseableDescription m.name)

theorem diagnostics_entry (style : Fragment.InlineStyle) (m : Module) :
    (DocTable.entry style m).2 = (unreadable? m).toList := by
  have hfault : (unreadable? m) =
      (Fragment.read (m.desc.getD "")).fault.map (.unparseableDescription m.name) := by
    unfold unreadable?
    cases m.desc with
    | none => simp [Fragment.read_empty]
    | some desc => rfl
  rw [hfault]
  unfold DocTable.entry Fragment.renderInline Fragment.Reading.toExcept
  cases (Fragment.read (m.desc.getD "")).fault with
  | none => rfl
  | some fault => rfl

theorem emit_diagnostics (o : DocTable.Options) (modules : List Module) :
    (DocTable.emit o modules).2 = modules.filterMap unreadable? := by
  rw [List.filterMap_eq_flatMap_toList]
  exact List.flatMap_congr fun m _ => diagnostics_entry o.format.style m

theorem stubsNotes_eq (tree : Tree) :
    stubsNotes tree = tree.containers.flatMap Container.notes := by
  have hcontainers (role : Role) (m : Module) :
      (m.containers role).flatMap Container.notes =
        scopeNotes role (m.container role).byHand m := by
    simp only [Module.containers, List.flatMap_cons, List.flatMap_map]
    rfl
  unfold stubsNotes modulesNotes Tree.containers
  rw [List.flatMap_append, List.flatMap_assoc, List.flatMap_assoc]
  simp only [hcontainers]
  rfl

/-- The diagnostics of a generation are those about factories, container by container, and after
them those about descriptions. Wherever the stubs use a factory, the container around that place
answers for it: either one of its diagnostics names the factory, or its body holds it. -/
theorem generateWith_diagnostics {registry : Registry} {options : Options} {tree : Tree}
    {artifacts : Artifacts} (h : generateWith registry options tree = .ok artifacts) :
    (∀ m : Method, ∀ target, m.factoryTarget? = some target ↔
      target ≠ "" ∧ m.name = "create" ++ target) ∧
    artifacts.diagnostics =
      tree.containers.flatMap Container.notes ++ tree.modules.filterMap unreadable? ∧
    artifacts.stubs = stubsText options.header (stubsDraft registry tree).lines ∧
    Answered registry tree.containers (stubsDraft registry tree).lines := by
  have hnone : tree.violations = [] :=
    (stopsAt_generateWith registry options tree).exists_ok_iff.1 ⟨artifacts, h⟩
  have hw := writes_stubsDraft registry hnone
  rw [generateWith_eq_ok hnone] at h
  obtain rfl := Except.ok.inj h
  refine ⟨fun m target => Method.factoryTarget?_eq_some_iff, ?_, ?_, ?_⟩
  · rw [stubsNotes_eq, emit_diagnostics]
  · rw [hw.lines_eq]
  · rw [hw.lines_eq]
    exact answered_stubsLines hnone

/-- An end tag that matches nothing. -/
def strayTag : String := "</p>"

theorem fault_read_strayTag :
    (Fragment.read strayTag).fault = some (.unexpectedEndTag "p" 6) := by
  have hwrap : (Fragment.wrap strayTag).toList = '<' :: "html></p></html>".toList := by decide
  have hroot : Fragment.Token.read '<' "html></p></html>".toList =
      .ok (.startTag "html" false, '<' :: "/p></html>".toList) := by rfl
  have hstray : Fragment.Token.read '<' "/p></html>".toList =
      .ok (.endTag "p", "</html>".toList) := by rfl
  unfold Fragment.read
  rw [hwrap, Fragment.readFrom_of_token hroot rfl, Fragment.readFrom_of_unexpected hstray rfl]
  decide

/-- One class is declared, the other is not, and the description cannot be read. -/
def factoryTree : Tree :=
  { modules := [{ name := "net", desc := some strayTag,
                  methods := some [{ name := "createServer", signatures := [{}] },
                                   { name := "createSocket", signatures := [{}] }],
                  classes := some [{ name := "net.Server" }] }] }

theorem generateWith_diagnostics_factoryTree :
    ∃ artifacts, generateWith .empty {} factoryTree = .ok artifacts ∧
      artifacts.diagnostics =
        [.missingFactoryTarget "net" "createSocket" "Socket",
         .unparseableDescription "net" (.unexpectedEndTag "p" 6)] := by
  have hnone : factoryTree.violations = [] := by decide
  obtain ⟨artifacts, h⟩ :=
    (stopsAt_generateWith .empty {} factoryTree).exists_ok_iff.2 hnone
  refine ⟨artifacts, h, ?_⟩
  have hdescriptions : factoryTree.modules.filterMap unreadable? =
      [.unparseableDescription "net" (.unexpectedEndTag "p" 6)] := by
    simp [factoryTree, unreadable?, fault_read_strayTag]
  rw [(generateWith_diagnostics h).2.1, hdescriptions]
  decide

end ApiStubs
