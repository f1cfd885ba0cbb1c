import ApiStubs.Proofs.Factories

/-!
# The bodies of factory methods

Whether a method makes objects, and of which class, is read off its documented name, but what is
written of the name is only the part that can stand in code. The two agree as long as nothing
follows this part.

* `statements`: the lines of code in the body of a function;
* `Doc.Method.written`: the method under the name that is written for it;
* `factoryTarget?_written`: the class that the written name stands for;
* `statements_agree_iff`: the body of a method goes with its written name exactly if a factory
  method is documented under a name that is written in full.
-/

namespace ApiStubs

open Doc Inference Stub

/-! ### The names of factory methods -/

namespace Name

theorem nameHead_eq_self_iff {raw : String} :
    nameHead raw = raw ↔ raw.toList.all isNameChar = true := by
  constructor
  · intro h
    rw [← h]
    exact all_isNameChar_nameHead raw
  · intro h
    rw [nameHead, List.takeWhile_eq_self_iff.2 (List.all_eq_true.1 h), String.ofList_toList]

/-- A name that is not in the table of irregular names starts with its identifier. -/
theorem exists_append_of_lookup {raw : String} (h : irregular.lookup raw = none) :
    ∃ rest, raw = identifier raw ++ rest := by
  refine ⟨String.ofList (raw.toList.dropWhile isNameChar), String.toList_injective ?_⟩
  rw [identifier_of_lookup_eq_none h, nameHead, String.toList_append, String.toList_ofList,
    String.toList_ofList, List.takeWhile_append_dropWhile]

theorem identifier_create (target : String) :
    identifier ("create" ++ target) = "create" ++ nameHead target := by
  have hhead {raw : String} (h : raw.toList.head? ≠ some 'c') : "create" ++ target ≠ raw := by
    rintro rfl
    exact h (head?_append rfl target)
  have hlookup : irregular.lookup ("create" ++ target) = none :=
    lookup_irregular (hhead (by decide)) (hhead (by decide))
  have hword : ∀ c ∈ "create".toList, isNameChar c = true := List.all_eq_true.1 (by decide)
  rw [identifier_of_lookup_eq_none hlookup, nameHead, String.toList_append,
    List.takeWhile_append_of_pos hword, String.ofList_append, String.ofList_toList, nameHead]

end Name

namespace Doc.Method

/-- The method under the name that is written for it. -/
def written (m : Method) : Method := { m with name := Name.identifier m.name }

/-- The name that is written stands for what the class of the documented name starts with. -/
theorem factoryTarget?_written (m : Method) :
    m.written.factoryTarget? = (m.factoryTarget?.map Name.nameHead).filter (· ≠ "") := by
  cases h : m.factoryTarget? with
  | some target =>
    obtain ⟨-, hname⟩ := factoryTarget?_eq_some_iff.1 h
    have hwritten : m.written.name = "create" ++ Name.nameHead target := by
      rw [written, hname, Name.identifier_create]
    by_cases hnone : Name.nameHead target = ""
    · rw [Option.map_some, hnone]
      refine Option.eq_none_iff_forall_ne_some.2 fun other hother => ?_
      obtain ⟨hne, hother⟩ := factoryTarget?_eq_some_iff.1 hother
      rw [hwritten, hnone] at hother
      exact hne ((String.append_right_inj _).1 hother).symm
    · rw [Option.map_some, Option.filter_some, if_pos (by simpa using hnone)]
      exact factoryTarget?_eq_some_iff.2 ⟨hnone, hwritten⟩
  | none =>
    refine Option.eq_none_iff_forall_ne_some.2 fun target ht => ?_
    obtain ⟨hne, hname⟩ := factoryTarget?_eq_some_iff.1 ht
    have hname : Name.identifier m.name = "create" ++ target := hname
    -- no name in the table stands for one of a factory method
    have hirregular (name : String) (hc : name.toList.head? ≠ some 'c') :
        Name.identifier m.name ≠ name := by
      rintro rfl
      rw [hname] at hc
      exact hc (head?_append rfl target)
    have htls : m.name ≠ "tls_(ssl)" := fun he => hirregular "tls" (by decide) (by rw [he]; rfl)
    have hevents : m.name ≠ "Events" := fun he =>
      hirregular "events" (by decide) (by rw [he]; rfl)
    obtain ⟨rest, hrest⟩ := Name.exists_append_of_lookup (Name.lookup_irregular htls hevents)
    rw [hname, String.append_assoc] at hrest
    have hsome : m.factoryTarget? = some (target ++ rest) :=
      factoryTarget?_eq_some_iff.2 ⟨by simp [hne], hrest⟩
    rw [h] at hsome
    cases hsome

end Doc.Method

/-! ### The bodies of methods -/

namespace Stub

/-- The lines of code in the body of a function. -/
def statements (lines : List Line) : List String :=
  (lines.filter fun l => l.depth == 1 && !isComment l.text).map Line.text

theorem statements_methodLines {byHand : String → Option String} {m : Method}
    (h : byHand m.name = none) :
    statements (methodLines byHand m) = m.factoryTarget?.toList.map factoryReturn := by
  have hcomments : ((summaryLines m.desc ++ m.signatures.flatMap signatureLines).map
      Line.deeper).filter (fun l => l.depth == 1 && !isComment l.text) = [] := by
    refine List.filter_eq_nil_iff.2 fun l hl => ?_
    obtain ⟨k, hk, rfl⟩ := List.mem_map.1 hl
    have hcomment : isComment k.text = true := isComment_of_mem_methodComments hk
    simp [Line.deeper, hcomment]
  have hcode (target : String) : isComment (factoryReturn target) = false := by
    have hhead : (factoryReturn target).toList.head? = some 'r' := by
      repeat apply head?_append
      rfl
    exact isComment_eq_false (by simp [hhead])
  have hbody : ((bodyLines byHand m).map Line.deeper).filter
      (fun l => l.depth == 1 && !isComment l.text) = (bodyLines byHand m).map Line.deeper := by
    refine List.filter_eq_self.2 fun l hl => ?_
    obtain ⟨k, hk, rfl⟩ := List.mem_map.1 hl
    rw [bodyLines, h] at hk
    obtain ⟨target, -, rfl⟩ := List.mem_map.1 hk
    simp [Line.deeper, hcode]
  rw [statements, methodLines, List.filter_cons_of_neg (by simp), List.map_append,
    List.append_assoc, List.filter_append, List.filter_append, hcomments, hbody, bodyLines, h]
  simp [Line.deeper, Function.comp_def]

end Stub

/-- The methods of a container stand among its lines. -/
theorem Container.methodLines_infix {registry : Registry} {c : Container} {m : Method}
    (hm : m ∈ c.scope.methods.getD []) (h : (c.draft registry).result = .ok ()) :
    methodLines c.byHand m <:+: (c.draft registry).lines := by
  have hmethods : methodLines c.byHand m <:+:
      (c.scope.methods.getD []).flatMap (methodLines c.byHand) := by
    rw [List.flatMap_def]
    exact List.infix_of_mem_flatten (List.mem_map_of_mem hm)
  have hmembers : (c.scope.methods.getD []).flatMap (methodLines c.byHand) <:+:
      (c.draft registry).lines := by
    rw [lines_draft (result_draft_eq_ok_iff.1 h), membersLines]
    simp only [List.append_assoc]
    rw [← List.append_assoc]
    exact List.infix_append ..
  exact hmethods.trans hmembers

namespace Doc.Method

/-- A factory method whose name is written in full is one whose class has only characters that are
kept of a name. -/
theorem identifier_eq_self_iff {m : Method} {target : String} (h : m.factoryTarget? = some target) :
    Name.identifier m.name = m.name ↔ target.toList.all Name.isNameChar = true := by
  obtain ⟨-, hname⟩ := factoryTarget?_eq_some_iff.1 h
  rw [hname, Name.identifier_create, String.append_right_inj, Name.nameHead_eq_self_iff]

/-- The code for the written name is the one for the documented name exactly if the name of a
factory method is written in full. -/
theorem factoryReturn_written_iff (m : Method) :
    m.factoryTarget?.toList.map factoryReturn = m.written.factoryTarget?.toList.map factoryReturn ↔
      (m.factoryTarget? ≠ none → Name.identifier m.name = m.name) := by
  rw [factoryTarget?_written]
  cases h : m.factoryTarget? with
  | none => simp
  | some target =>
    obtain ⟨hne, -⟩ := factoryTarget?_eq_some_iff.1 h
    rw [identifier_eq_self_iff h, ← Name.nameHead_eq_self_iff, Option.map_some, Option.filter_some]
    by_cases hnone : Name.nameHead target = ""
    · simp [hnone, Ne.symm hne]
    · rw [if_pos (by simpa using hnone)]
      constructor
      · intro hcode _
        exact (factoryReturn_injective (List.cons.inj hcode).1).symm
      · intro hfull
        rw [hfull (Option.some_ne_none _)]

end Doc.Method

/-- What is written of a method without a body written by hand, if nothing refuses it. The method
begins with its written name, and the code in its body is the one that goes with its documented
name.

* In a container that is not refused the method is not refused either, and it stands among the
  lines of the container.
* The code goes with the written name exactly if nothing is left out of the name of a factory
  method.
* This is so exactly if the class that is named in the code, if there is one, has only characters
  that are kept of a name. -/
theorem statements_agree_iff (registry : Registry) (c : Container) (m : Method)
    (hm : m ∈ c.scope.methods.getD []) (hb : c.byHand m.name = none)
    (h : (methodDraft c.byHand c.name c.classes m).result = .ok ()) :
    (methodDraft c.byHand c.name c.classes m).lines.head? =
      some ⟨0, "this." ++ Name.identifier m.name ++ " = function(" ++
        ", ".intercalate m.parameters ++ ") \x7b"⟩ ∧
    statements (methodDraft c.byHand c.name c.classes m).lines =
      m.factoryTarget?.toList.map factoryReturn ∧
    ((c.draft registry).result = .ok () →
      (methodDraft c.byHand c.name c.classes m).lines <:+: (c.draft registry).lines) ∧
    (statements (methodDraft c.byHand c.name c.classes m).lines =
        m.written.factoryTarget?.toList.map factoryReturn ↔
      (m.factoryTarget? ≠ none → Name.identifier m.name = m.name)) ∧
    ((∀ target, factoryReturn target ∈
          statements (methodDraft c.byHand c.name c.classes m).lines →
        target.toList.all Name.isNameChar = true) ↔
      (m.factoryTarget? ≠ none → Name.identifier m.name = m.name)) := by
  have hviolations : methodViolations c.name m = [] :=
    (stopsAt_methodDraft c.byHand c.name c.classes m).eq_ok_iff.1 h
  rw [(writes_methodDraft hviolations).lines_eq, statements_methodLines hb]
  refine ⟨rfl, rfl, Container.methodLines_infix hm, m.factoryReturn_written_iff, ?_⟩
  cases hf : m.factoryTarget? with
  | none => simp
  | some target =>
    rw [Method.identifier_eq_self_iff hf]
    constructor
    · intro hall _
      exact hall target (List.mem_singleton.2 rfl)
    · intro hall other hother
      rw [factoryReturn_injective (List.mem_singleton.1 hother)]
      exact hall (Option.some_ne_none _)

/-- A factory method. -/
def createServer : Method :=
  { name := "createServer", desc := some "A server.", signatures := [{}] }

/-- The container of a module with a factory method and its class. -/
def serverContainer : Container :=
  Module.container .module
    { name := "net", methods := some [createServer], classes := some [{ name := "net.Server" }] }

theorem statements_agree_createServer :
    createServer ∈ serverContainer.scope.methods.getD [] ∧
      serverContainer.byHand createServer.name = none ∧
      (methodDraft serverContainer.byHand serverContainer.name serverContainer.classes
        createServer).result = .ok () ∧
      statements (methodDraft serverContainer.byHand serverContainer.name serverContainer.classes
        createServer).lines = ["return new this.Server();"] ∧
      createServer.written.factoryTarget?.toList.map factoryReturn =
        ["return new this.Server();"] := by
  have hm : createServer ∈ serverContainer.scope.methods.getD [] := List.mem_singleton.2 rfl
  have hb : serverContainer.byHand createServer.name = none := by decide
  have hok : (methodDraft serverContainer.byHand serverContainer.name serverContainer.classes
      createServer).result = .ok () := (writes_methodDraft (by decide)).result_eq
  obtain ⟨-, hcode, -, hagree, -⟩ :=
    statements_agree_iff .empty serverContainer createServer hm hb hok
  have hserver : createServer.factoryTarget?.toList.map factoryReturn =
      ["return new this.Server();"] := by decide
  have hwritten := hagree.2 fun _ => by decide
  exact ⟨hm, hb, hok, hcode.trans hserver, hwritten.symm.trans (hcode.trans hserver)⟩

/-- A module with two methods whose documented names go on behind what is written of them. -/
def trailingModule : Module :=
  { name := "net",
    methods := some
      [{ name := "create-server", signatures := [{}] },
       { name := "createServer(options)", signatures := [{}] }],
    classes := some [{ name := "net.Server" }] }

/-- The first method is written as `create`, which is no name of a factory method, and yet has a
body. The second is written as `createServer`, and its body names no class at all. -/
theorem statements_disagree_trailingModule :
    ((trailingModule.container .module).draft .empty).result = .ok () ∧
      (methodDraft noBody "net" (trailingModule.classes.getD [])
          { name := "create-server", signatures := [{}] }).lines =
        [⟨0, "this.create = function() \x7b"⟩, ⟨1, "return new this.-server();"⟩,
         ⟨0, "\x7d"⟩] ∧
      (methodDraft noBody "net" (trailingModule.classes.getD [])
          { name := "createServer(options)", signatures := [{}] }).lines =
        [⟨0, "this.createServer = function() \x7b"⟩,
         ⟨1, "return new this.Server(options)();"⟩, ⟨0, "\x7d"⟩] := by
  refine ⟨Container.result_draft_eq_ok_iff.2 (by decide), ?_, ?_⟩
  · rw [(writes_methodDraft (by decide)).lines_eq]
    decide
  · rw [(writes_methodDraft (by decide)).lines_eq]
    decide

end ApiStubs
