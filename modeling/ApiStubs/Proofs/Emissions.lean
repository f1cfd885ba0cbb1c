import ApiStubs.Proofs.StubLines
import ApiStubs.Stub.Emission

/-!
# The frame of an emission

Wherever the writer stands, an emission adds the lines of a draft and leaves the rest as it was.
Levels are entered and left on the way, and a violation may end the work inside several of them.

* `Emission.sheet`, `Emission.result`: what an emission leaves, and how it ends;
* `Emission.Follows`: an emission that does what a draft says, on every sheet;
* `Follows.bind`, `Follows.indented`, `follows_forM`: the ways to put emissions together;
* `follows_emitMethod`, `follows_emitContainer`, `follows_emitScope`, `follows_emitLoader`: every
  emission follows its draft;
* `Part.emit_frame`: what a part of the stubs leaves on a sheet.
-/

namespace ApiStubs

open Doc Inference Stub

variable {α β : Type}

/-! ### What an emission leaves -/

/-- The sheet with more lines, at the depth of its writer, and more diagnostics. -/
def Sheet.add (s : Sheet) (lines : List Line) (diagnostics : List Diagnostic) : Sheet :=
  { writer := { s.writer with output := s.writer.output ++ render s.writer.depth lines }
    diagnostics := s.diagnostics ++ diagnostics }

theorem Sheet.add_nil (s : Sheet) : s.add [] [] = s := by
  simp [add, render]

theorem Sheet.add_add (s : Sheet) (lines more : List Line) (ds es : List Diagnostic) :
    (s.add lines ds).add more es = s.add (lines ++ more) (ds ++ es) := by
  simp [add, render_append, String.append_assoc]

namespace Emission

/-- The sheet that is left. -/
def sheet (e : Emission α) (s : Sheet) : Sheet :=
  match e s with
  | .ok _ left | .error _ left => left

/-- How the work ends. -/
def result (e : Emission α) (s : Sheet) : Except Violation α :=
  match e s with
  | .ok a _ => .ok a
  | .error violation _ => .error violation

/-- On every sheet the emission adds what the draft has written and noticed, and ends as it does. -/
structure Follows (e : Emission α) (d : Draft α) : Prop where
  apply_eq : ∀ s, e s =
    match d.result with
    | .ok a => .ok a (s.add d.lines d.diagnostics)
    | .error violation => .error violation (s.add d.lines d.diagnostics)

theorem Follows.sheet_eq {e : Emission α} {d : Draft α} (h : Follows e d) (s : Sheet) :
    e.sheet s = s.add d.lines d.diagnostics := by
  rw [sheet, h.apply_eq]
  cases d.result <;> rfl

theorem Follows.result_eq {e : Emission α} {d : Draft α} (h : Follows e d) (s : Sheet) :
    e.result s = d.result := by
  rw [result, h.apply_eq]
  cases d.result <;> rfl

/-! ### Steps -/

theorem follows_pure (a : α) : Follows (pure a) (pure a) := by
  refine ⟨fun s => ?_⟩
  show EStateM.Result.ok a s = .ok a (s.add [] [])
  rw [Sheet.add_nil]

theorem follows_throw (violation : Violation) :
    Follows (throw violation : Emission α) (.refuse violation) := by
  refine ⟨fun s => ?_⟩
  show EStateM.Result.error violation s = .error violation (s.add [] [])
  rw [Sheet.add_nil]

theorem follows_ofExcept (x : Except Violation α) : Follows (ofExcept x) (.ofExcept x) := by
  cases x with
  | ok a => exact follows_pure a
  | error violation => exact follows_throw violation

theorem follows_line (text : String) : Follows (line text) (.line text) := by
  refine ⟨fun s => ?_⟩
  show EStateM.Result.ok () _ = .ok () _
  simp [Sheet.add, Draft.line, render, Writer.line]

theorem follows_note (diagnostic : Diagnostic) : Follows (note diagnostic) (.note diagnostic) := by
  refine ⟨fun s => ?_⟩
  show EStateM.Result.ok () _ = .ok () _
  simp [Sheet.add, Draft.note, render]

theorem foldl_line (w : Writer) (texts : List String) :
    texts.foldl Writer.line w =
      { w with output := w.output ++ render w.depth (texts.map (⟨0, ·⟩)) } := by
  induction texts generalizing w with
  | nil => simp [render]
  | cons text texts ih =>
    rw [List.foldl_cons, ih, List.map_cons, render_cons, Writer.depth_line, Writer.output_line,
      String.append_assoc, Nat.add_zero]

/-- The lines of a block are written one by one, at the depth of the writer. -/
theorem follows_block (text : String) : Follows (block text) (.block text) := by
  refine ⟨fun s => ?_⟩
  show EStateM.Result.ok () _ = .ok () _
  simp [Sheet.add, Draft.block, Writer.block, foldl_line]

/-! ### Putting emissions together -/

theorem Follows.bind {e : Emission α} {d : Draft α} {f : α → Emission β} {g : α → Draft β}
    (h : Follows e d) (hf : ∀ a, Follows (f a) (g a)) : Follows (e >>= f) (d >>= g) := by
  refine ⟨fun s => ?_⟩
  have hbind : (e >>= f) s = match e s with
    | .ok a left => f a left
    | .error violation left => .error violation left := by
    show EStateM.bind e f s = _
    rw [EStateM.bind]
    cases e s <;> rfl
  rw [hbind, h.apply_eq]
  cases hd : d.result with
  | ok a =>
    simp only [Draft.bind_of_ok hd]
    rw [(hf a).apply_eq, Sheet.add_add]
  | error violation => simp only [Draft.bind_of_error hd]

theorem indented_apply (body : Emission α) (s : Sheet) : indented body s =
    match body { s with writer := s.writer.indent } with
    | .ok a left => .ok a { left with writer := left.writer.dedent }
    | .error violation left => .error violation { left with writer := left.writer.dedent } := by
  show (tryFinally body (onWriter Writer.dedent)) { s with writer := s.writer.indent } = _
  unfold tryFinally
  cases h : body { s with writer := s.writer.indent } with
  | ok a left =>
    simp only [tryFinally', Functor.map, EStateM.map, h]
    rfl
  | error violation left =>
    simp only [tryFinally', Functor.map, EStateM.map, h]
    rfl

/-- Inside a level the depth is one more, and outside it is what it was. -/
theorem dedent_add_indent (s : Sheet) (lines : List Line) (ds : List Diagnostic) :
    let left := Sheet.add { s with writer := s.writer.indent } lines ds
    { left with writer := left.writer.dedent } = s.add (lines.map Line.deeper) ds := by
  simp [Sheet.add, render_deeper, Writer.dedent, Writer.indent]

/-- A level is left after the last line of its body, and after a violation in it. -/
theorem Follows.indented {e : Emission α} {d : Draft α} (h : Follows e d) :
    Follows (indented e) d.nested := by
  refine ⟨fun s => ?_⟩
  rw [indented_apply, h.apply_eq]
  cases hd : d.result with
  | ok a => simp only [Draft.nested, hd, dedent_add_indent]
  | error violation => simp only [Draft.nested, hd, dedent_add_indent]

theorem follows_ite {c : Prop} [Decidable c] {e e' : Emission α} {d d' : Draft α}
    (h : Follows e d) (h' : Follows e' d') :
    Follows (if c then e else e') (if c then d else d') := by
  by_cases hc : c
  · rwa [if_pos hc, if_pos hc]
  · rwa [if_neg hc, if_neg hc]

theorem follows_forM {f : α → Emission Unit} {g : α → Draft Unit} (h : ∀ a, Follows (f a) (g a))
    (as : List α) : Follows (as.forM f) (Draft.each g as) := by
  induction as with
  | nil => exact follows_pure ()
  | cons a as ih =>
    have hall : Follows (f a >>= fun _ => as.forM f) (Draft.each g (a :: as)) :=
      (h a).bind fun _ => ih
    exact hall

end Emission

namespace Stub

open Emission

variable {container : String} {byHand : String → Option String} {classes : List Scope}
  {registry : Registry}

/-! ### Members -/

theorem follows_emitSummary (desc : Option String) :
    Follows (emitSummary desc) (summary desc) := by
  cases desc with
  | some desc => exact follows_line _
  | none => exact follows_pure ()

theorem follows_emitReturn (r : Option Return) : Follows (emitReturn r) (returnDraft r) := by
  cases r with
  | none => exact follows_pure ()
  | some r => exact follows_ite (follows_pure ()) (follows_line _)

theorem follows_emitSignature (s : Signature) : Follows (emitSignature s) (signatureDraft s) := by
  refine follows_ite (follows_pure ()) ?_
  exact (follows_line _).bind fun _ =>
    (follows_forM (fun p => follows_line (paramLine p)) s.params).bind fun _ =>
    (follows_emitReturn s.returns).bind fun _ => follows_line _

theorem follows_emitFactory (method target : String) :
    Follows (emitFactory container method classes target)
      (factoryDraft container method classes target) := by
  unfold emitFactory checkFactory factoryDraft
  split
  · exact (follows_pure ()).bind fun _ => follows_line _
  · exact (follows_note _).bind fun _ => follows_line _

theorem follows_emitBody (m : Method) :
    Follows (emitBody byHand container classes m) (bodyDraft byHand container classes m) := by
  unfold emitBody bodyDraft
  cases byHand m.name with
  | some code => exact follows_block code
  | none =>
    cases m.factoryTarget? with
    | some target => exact follows_emitFactory m.name target
    | none => exact follows_pure ()

theorem follows_emitMethod (m : Method) :
    Follows (emitMethod byHand container classes m) (methodDraft byHand container classes m) := by
  refine (follows_ofExcept _).bind fun name => ?_
  cases m.signatures with
  | nil => exact follows_throw _
  | cons first later =>
    refine (follows_ofExcept _).bind fun params => ?_
    have hinner := (follows_emitSummary m.desc).bind fun _ =>
      (follows_forM follows_emitSignature (first :: later)).bind fun _ =>
      @follows_emitBody container byHand classes m
    exact (follows_line _).bind fun _ => hinner.indented.bind fun _ => follows_line _

theorem follows_emitListener (name params : String) (comment : List String) :
    Follows (emitListener name params comment) (listenerDraft name params comment) := by
  refine follows_ite (follows_line _) ?_
  exact (follows_line _).bind fun _ =>
    (follows_forM follows_line comment).indented.bind fun _ => follows_line _

theorem follows_emitEvents (events : List Doc.Event) :
    Follows (emitEvents events) (eventsDraft events) := by
  have listener := follows_emitListener
  exact (listener ..).bind fun _ => (listener ..).bind fun _ => (listener ..).bind fun _ =>
    (listener ..).bind fun _ => (listener ..).bind fun _ => (listener ..).bind fun _ =>
    (listener ..).bind fun _ => listener ..

theorem follows_emitEvents? (events : Option (List Doc.Event)) :
    Follows (emitEvents? events) (eventsDraft? events) := by
  cases events with
  | some events => exact follows_emitEvents events
  | none => exact follows_pure ()

theorem follows_emitField (p : Property) : Follows (emitField p) (fieldDraft p) := by
  unfold emitField fieldDraft
  cases p.desc with
  | some desc => exact follows_line _
  | none => exact follows_pure ()

theorem follows_emitProperty (specializer : Option Specializer) (p : Property) :
    Follows (emitProperty container specializer p) (propertyDraft container specializer p) :=
  (follows_ofExcept _).bind fun _ => (follows_emitField p).bind fun _ => follows_line _

/-! ### Scopes -/

theorem follows_emitContainer {emitClasses : Emission Unit} {between : Draft Unit}
    (h : Follows emitClasses between) (lead name trail : String)
    (specializer : Option Specializer) (s : Scope) :
    Follows (emitContainer lead name trail byHand classes emitClasses specializer s)
      (frame lead name trail (membersDraft name byHand classes between specializer s)) := by
  have hmembers := (follows_emitSummary s.desc).bind fun _ =>
    (follows_forM (@follows_emitMethod name byHand classes) (s.methods.getD [])).bind fun _ =>
    (follows_emitEvents? s.events).bind fun _ => h.bind fun _ =>
    follows_forM (@follows_emitProperty name specializer) (s.properties.getD [])
  exact (follows_line _).bind fun _ => hmembers.indented.bind fun _ => follows_line _

theorem follows_emitClass (c : Scope) : Follows (emitClass c) (classDraft c) :=
  (follows_ofExcept _).bind fun _ => (follows_ofExcept _).bind fun _ =>
    (follows_emitContainer (follows_pure ()) ..).bind fun _ =>
    (follows_line _).bind fun _ => (follows_line _).bind fun _ =>
    (follows_line _).indented.bind fun _ => follows_line _

theorem follows_emitScope (registry : Registry) (role : Role) (byHand : String → Option String)
    (lead trail : String) (m : Module) :
    Follows (emitScope registry role byHand lead trail m)
      (scopeDraft registry role byHand lead trail m) :=
  (follows_ofExcept _).bind fun _ =>
    follows_emitContainer (follows_forM follows_emitClass (m.classes.getD [])) ..

theorem follows_emitModule (registry : Registry) (lead trail : String) (m : Module) :
    Follows (emitModule registry lead trail m) (moduleDraft registry lead trail m) :=
  follows_emitScope ..

theorem follows_emitGlobal (registry : Registry) (g : Module) :
    Follows (emitGlobal registry g) (globalDraft registry g) :=
  (follows_ofExcept _).bind fun _ => follows_emitScope ..

/-! ### The loader -/

theorem follows_emitCache (modules : List Module) :
    Follows (emitCache modules) (cacheDraft modules) :=
  (follows_line _).bind fun _ =>
    (follows_forM (fun _ => follows_line _) modules).indented.bind fun _ => follows_line _

theorem follows_emitDispatcher (registry : Registry) (modules : List Module) :
    Follows (emitDispatcher registry modules) (dispatcherDraft registry modules) := by
  have hcases := follows_forM (fun m => follows_emitModule registry
    ("case \"" ++ moduleLabel m ++ "\": return new ") ";" m) modules
  have hswitch := (follows_line "switch(module_name) \x7b").bind fun _ =>
    hcases.indented.bind fun _ => follows_line "\x7d"
  exact (follows_line _).bind fun _ => hswitch.indented.bind fun _ => follows_line _

/-- The resolver is written as a block, which is cut into its lines. -/
theorem follows_resolver : Follows (block ("\n".intercalate resolverLines))
    (Draft.each .line resolverLines) := by
  have hcut : textLines ("\n".intercalate resolverLines) = resolverLines := by
    refine textLines_intercalate fun l hl => ?_
    have hplain := isPlainCode_of_mem_resolverLines l hl
    exact ⟨ne_empty_of_isPlainCode hplain, isOneLine_of_isPlainCode hplain⟩
  have hlines : Draft.each .line resolverLines = .block ("\n".intercalate resolverLines) := by
    rw [Draft.block, hcut]
    exact Draft.writes_lines resolverLines id
  rw [hlines]
  exact follows_block _

theorem follows_emitLoader (registry : Registry) (modules : List Module) :
    Follows (emitLoader registry modules) (loaderDraft registry modules) := by
  have hbody := (follows_line "var require_count = 0;").bind fun _ =>
    (follows_line "var require_depth = 0;").bind fun _ =>
    (follows_line ("var max_require_depth = " ++ maxRequireDepth.repr ++ ";")).bind fun _ =>
    (follows_emitCache modules).bind fun _ =>
    (follows_emitDispatcher registry modules).bind fun _ =>
    follows_resolver.bind fun _ => follows_line "return f;"
  exact (follows_line _).bind fun _ => hbody.indented.bind fun _ => follows_line _

/-- The stubs of a documentation, below their header. -/
def emitStubs (registry : Registry) (tree : Tree) : Emission Unit := do
  line prologue
  tree.declaredGlobals.forM (emitGlobal registry)
  emitLoader registry tree.modules

theorem follows_emitStubs (registry : Registry) (tree : Tree) :
    Follows (emitStubs registry tree) (stubsDraft registry tree) :=
  (follows_line _).bind fun _ =>
    (follows_forM (follows_emitGlobal registry) tree.declaredGlobals).bind fun _ =>
    follows_emitLoader registry tree.modules

/-- The stubs that are generated are those that are emitted below the header. -/
theorem output_emitStubs {registry : Registry} {options : Options} {tree : Tree}
    {artifacts : Artifacts} (h : generateWith registry options tree = .ok artifacts) :
    ((emitStubs registry tree).sheet
      { writer := { output := onOwnLines (options.header.getD "") } }).writer.output =
        artifacts.stubs := by
  rw [(follows_emitStubs registry tree).sheet_eq]
  unfold generateWith at h
  cases hd : (stubsDraft registry tree).result with
  | error violation => simp [hd] at h
  | ok _ =>
    obtain rfl := by simpa [hd] using h
    rfl

/-! ### Parts of the stubs -/

/-- The draft of a part. -/
def Part.draft (registry : Registry) : Part → Draft Unit
  | .module lead trail m => moduleDraft registry lead trail m
  | .global g => globalDraft registry g
  | .loader modules => loaderDraft registry modules

theorem Part.follows_emit (registry : Registry) (part : Part) :
    Follows (part.emit registry) (part.draft registry) := by
  cases part with
  | module lead trail m => exact follows_emitModule registry lead trail m
  | global g => exact follows_emitGlobal registry g
  | loader modules => exact follows_emitLoader registry modules

/-- A line is indented once more at the next level, unless it is empty. -/
theorem indentedLine_succ (depth : Nat) (text : String) :
    indentedLine (depth + 1) text =
      (if text = "" then "" else "    ") ++ indentedLine depth text := by
  have hspaces : String.ofList (List.replicate ((depth + 1) * indentWidth) ' ') =
      "    " ++ String.ofList (List.replicate (depth * indentWidth) ' ') := by
    rw [Nat.succ_mul, Nat.add_comm, List.replicate_add, String.ofList_append]
    rfl
  unfold indentedLine
  by_cases h : text = ""
  · rw [if_pos h, if_pos h, if_pos h, String.empty_append]
  · rw [if_neg h, if_neg h, if_neg h, hspaces]
    simp only [String.append_assoc]

theorem render_succ (depth : Nat) (lines : List Line) :
    render (depth + 1) lines = String.join (lines.map fun l =>
      (if l.text = "" then "" else "    ") ++ indentedLine (depth + l.depth) l.text) := by
  unfold render
  congr 1
  refine List.map_congr_left fun l _ => ?_
  rw [← indentedLine_succ, Nat.add_right_comm]

/-- A part of the stubs is written on any sheet as its draft says, whether it ends well or with a
violation inside any number of levels.

* The depth of the writer is what it was, and the text goes on with lines that depend on the part
  and the registry only, each below that depth.
* One level deeper, each of these lines has four more spaces, unless it is empty. -/
theorem Part.emit_frame (registry : Registry) (part : Part) (s : Sheet) :
    (part.emit registry).result s = (part.draft registry).result ∧
      ((part.emit registry).sheet s).writer.depth = s.writer.depth ∧
      ((part.emit registry).sheet s).writer.output =
        s.writer.output ++ render s.writer.depth (part.draft registry).lines ∧
      ((part.emit registry).sheet s).diagnostics =
        s.diagnostics ++ (part.draft registry).diagnostics ∧
      ((part.emit registry).sheet { s with writer := s.writer.indent }).writer.output =
        s.writer.output ++ String.join ((part.draft registry).lines.map fun l =>
          (if l.text = "" then "" else "    ") ++
            indentedLine (s.writer.depth + l.depth) l.text) := by
  have h := part.follows_emit registry
  refine ⟨h.result_eq s, ?_, ?_, ?_, ?_⟩
  · rw [h.sheet_eq]
    rfl
  · rw [h.sheet_eq]
    rfl
  · rw [h.sheet_eq]
    rfl
  · rw [h.sheet_eq, ← render_succ]
    rfl

end Stub

end ApiStubs
