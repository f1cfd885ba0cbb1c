import ApiStubs.Proofs.CommentLines
import ApiStubs.Proofs.Factories

/-!
# The order of members

Tools find the members of a stub by their place. A member is assigned to `this` on a line one level
below its function, and everything that belongs to the member is deeper or a comment. So the
assignments at this level are the members, in the order of the documentation.

* `assignments`: the lines at a depth that assign to `this`;
* `Container.openings`: the lines with which the members of a container begin;
* `assignments_membersLines`: the assignments of a container are the openings of its members;
* `Entry.lines_eq`: the lines of an entry, around the members of its container;
* `Entry.members_in_order`: no member of an entry is lost, repeated or moved.
-/

namespace ApiStubs

open Doc Inference Stub

namespace Stub

/-! ### Assignments among lines -/

/-- The text assigns to a member of `this`. -/
def assigns (text : String) : Bool := ['t', 'h', 'i', 's', '.'].isPrefixOf text.toList

/-- The assignments among the lines at a depth. -/
def assignments (depth : Nat) (lines : List Line) : List String :=
  (lines.filter fun l => l.depth == depth && assigns l.text).map Line.text

@[simp] theorem assignments_nil (depth : Nat) : assignments depth [] = [] := rfl

@[simp] theorem assignments_append (depth : Nat) (ls ms : List Line) :
    assignments depth (ls ++ ms) = assignments depth ls ++ assignments depth ms := by
  simp [assignments]

theorem assignments_flatMap {α : Type} (depth : Nat) (f : α → List Line) (as : List α) :
    assignments depth (as.flatMap f) = as.flatMap fun a => assignments depth (f a) := by
  induction as with
  | nil => rfl
  | cons a as ih => simp [ih]

/-- One assignment for each entry. -/
theorem assignments_flatMap_of_eq {α : Type} {depth : Nat} {f : α → List Line} {g : α → String}
    (h : ∀ a, assignments depth (f a) = [g a]) (as : List α) :
    assignments depth (as.flatMap f) = as.map g := by
  rw [assignments_flatMap, List.map_eq_flatMap]
  exact List.flatMap_congr fun a _ => h a

@[simp] theorem assignments_deeper (depth : Nat) (ls : List Line) :
    assignments (depth + 1) (ls.map Line.deeper) = assignments depth ls := by
  simp [assignments, List.filter_map, Line.deeper, Function.comp_def]

/-- Lines that are all deeper have no assignment at the depth they start from. -/
@[simp] theorem assignments_zero_deeper (ls : List Line) :
    assignments 0 (ls.map Line.deeper) = [] := by
  simp [assignments, List.filter_map, Line.deeper, Function.comp_def]

theorem assignments_cons_self {text : String} (h : assigns text = true) (depth : Nat)
    (ls : List Line) : assignments depth (⟨depth, text⟩ :: ls) = text :: assignments depth ls := by
  simp [assignments, h]

theorem assignments_cons_of_eq_false {text : String} (h : assigns text = false) (depth d : Nat)
    (ls : List Line) : assignments depth (⟨d, text⟩ :: ls) = assignments depth ls := by
  simp [assignments, h]

theorem assigns_append {text : String} (h : assigns text = true) (rest : String) :
    assigns (text ++ rest) = true := by
  unfold assigns at h ⊢
  rw [String.toList_append]
  exact List.isPrefixOf_iff_prefix.2
    ((List.isPrefixOf_iff_prefix.1 h).trans (List.prefix_append ..))

theorem assigns_eq_false {text : String} {c : Char} (h : text.toList.head? = some c)
    (hc : c ≠ 't') : assigns text = false := by
  obtain ⟨s, hs⟩ := List.head?_eq_some_iff.1 h
  unfold assigns
  rw [hs]
  simp [List.isPrefixOf, Ne.symm hc]

theorem assignments_comments {ls : List Line} (h : ∀ l ∈ ls, isComment l.text = true)
    (depth : Nat) : assignments depth ls = [] := by
  induction ls with
  | nil => rfl
  | cons l ls ih =>
    have hcomment : assigns l.text = false := by
      obtain ⟨rest, hrest⟩ := List.isPrefixOf_iff_prefix.1 (h l (by simp))
      refine assigns_eq_false (c := '/') ?_ (by decide)
      rw [← hrest]
      rfl
    rw [show l = ⟨l.depth, l.text⟩ from rfl, assignments_cons_of_eq_false hcomment,
      ih fun k hk => h k (by simp [hk])]

/-! ### The assignments of members -/

theorem assigns_functionOpening (name params : String) :
    assigns (functionOpening name params) = true := by
  repeat apply assigns_append
  decide

/-- The line with which a method begins. -/
def methodOpening (m : Method) : String :=
  functionOpening (Name.identifier m.name) (", ".intercalate m.parameters)

theorem assignments_methodLines (byHand : String → Option String) (m : Method) :
    assignments 0 (methodLines byHand m) = [methodOpening m] := by
  rw [methodLines, assignments_cons_self (assigns_functionOpening ..), assignments_append,
    assignments_zero_deeper]
  rfl

/-- The lines with which the functions begin that manage listeners. -/
def listenerOpenings : List String :=
  [functionOpening "addListener" "event, listener", functionOpening "once" "event, listener",
   functionOpening "removeListener" "event, listener", functionOpening "removeAllListeners" "event",
   functionOpening "listeners" "event", functionOpening "setMaxListeners" "n" ++ " \x7d",
   functionOpening "emit" "event, args", functionOpening "on" "event, listener"]

theorem assignments_listenerLines (name params : String) {comment : List String}
    (hc : comment ≠ []) :
    assignments 0 (listenerLines name params comment) = [functionOpening name params] := by
  have hdeep : (comment.map fun text => (⟨1, text⟩ : Line)) =
      (comment.map fun text => (⟨0, text⟩ : Line)).map Line.deeper := by
    simp [Line.deeper, Function.comp_def]
  rw [listenerLines, if_neg (by simpa using hc), assignments_cons_self (assigns_functionOpening ..),
    assignments_append, hdeep, assignments_zero_deeper]
  rfl

theorem assignments_eventsLines (events : List Doc.Event) :
    assignments 0 (eventsLines events) = listenerOpenings := by
  have hfull (name params : String) :
      assignments 0 (listenerLines name params (eventsComment (events.filter (·.isListable)))) =
        [functionOpening name params] :=
    assignments_listenerLines name params (by simp [eventsComment])
  have hnames (name params : String) :
      assignments 0 (listenerLines name params (eventNamesComment (events.filter (·.isListable)))) =
        [functionOpening name params] :=
    assignments_listenerLines name params (by simp [eventNamesComment])
  have hnone : assignments 0 (listenerLines "setMaxListeners" "n" []) =
      [functionOpening "setMaxListeners" "n" ++ " \x7d"] := by
    rw [listenerLines, if_pos List.isEmpty_nil,
      assignments_cons_self (assigns_append (assigns_functionOpening ..) _), assignments_nil]
  simp only [eventsLines, assignments_append, hfull, hnames, hnone, listenerOpenings,
    List.cons_append, List.nil_append]

theorem assignments_propertyLines (specializer : Option Specializer) (p : Property) :
    assignments 0 (propertyLines specializer p) = [valueLine specializer p] := by
  have hvalue : assigns (valueLine specializer p) = true := by
    repeat apply assigns_append
    decide
  rw [propertyLines, assignments_append,
    assignments_comments fun _ => isComment_of_mem_fieldLines, assignments_cons_self hvalue]
  rfl

/-- The line with which the factory of a class begins. -/
def classOpening (c : Scope) : String := factoryOpening (Name.className c.name)

/-- The constructor of a class and what it makes are no assignments, only its factory is. -/
theorem assignments_classLines (c : Scope) : assignments 0 (classLines c) = [classOpening c] := by
  have hopen :
      assigns ("" ++ "function " ++ Role.nested.container c.name ++ "() \x7b") = false := by
    refine assigns_eq_false (c := 'f') ?_ (by decide)
    rw [String.empty_append]
    repeat apply head?_append
    rfl
  have hreturn : assigns ("return new _" ++ Name.className c.name ++ "();") = false := by
    refine assigns_eq_false (c := 'r') ?_ (by decide)
    repeat apply head?_append
    rfl
  have hfactory : assigns (factoryOpening (Name.className c.name)) = true := by
    repeat apply assigns_append
    decide
  rw [classLines, frameLines, List.cons_append, assignments_cons_of_eq_false hopen,
    assignments_append, assignments_append, assignments_zero_deeper, factoryLines,
    assignments_cons_of_eq_false (by decide), assignments_cons_of_eq_false (by decide),
    assignments_cons_self hfactory, assignments_cons_of_eq_false hreturn]
  rfl

/-! ### The assignments of a container -/

/-- The lines with which the methods and the listeners of a scope begin. -/
def ownOpenings (s : Scope) : List String :=
  (s.methods.getD []).map methodOpening ++ if s.events.isSome then listenerOpenings else []

/-- The lines of a scope before its classes. -/
def ownLines (byHand : String → Option String) (s : Scope) : List Line :=
  summaryLines s.desc ++ (s.methods.getD []).flatMap (methodLines byHand) ++
    s.events.elim [] eventsLines

theorem assignments_ownLines (byHand : String → Option String) (s : Scope) :
    assignments 0 (ownLines byHand s) = ownOpenings s := by
  have hevents : assignments 0 (s.events.elim [] eventsLines) =
      if s.events.isSome then listenerOpenings else [] := by
    cases s.events with
    | none => rfl
    | some events => exact assignments_eventsLines events
  rw [ownLines, assignments_append, assignments_append,
    assignments_comments fun _ => isComment_of_mem_summaryLines,
    assignments_flatMap_of_eq (assignments_methodLines byHand), hevents]
  rfl

theorem assignments_membersLines (byHand : String → Option String) (classes : List Scope)
    (specializer : Option Specializer) (s : Scope) :
    assignments 0 (membersLines byHand (classes.flatMap classLines) specializer s) =
      ownOpenings s ++ classes.map classOpening ++
        (s.properties.getD []).map (valueLine specializer) := by
  rw [membersLines, assignments_append, assignments_append, ← ownLines, assignments_ownLines,
    assignments_flatMap_of_eq assignments_classLines,
    assignments_flatMap_of_eq (assignments_propertyLines specializer)]

end Stub

/-- The lines with which the members of the container begin, in the order of writing. -/
def Container.openings (registry : Registry) (c : Container) : List String :=
  ownOpenings c.scope ++ c.classes.map classOpening ++
    (c.scope.properties.getD []).map (valueLine (c.specializer registry))

/-! ### The lines of an entry -/

namespace Entry

/-- The documented scope of the entry. -/
def container : Entry → Container
  | .module _ _ m => m.container .module
  | .global g => g.container .global
  | .nested c => .ofClass c

/-- The first line of the entry. -/
def opening (e : Entry) : String :=
  let lead := match e with
    | .module lead _ _ => lead
    | .global g => "var " ++ Name.identifier g.name ++ " = new "
    | .nested _ => ""
  lead ++ "function " ++ e.container.name ++ "() \x7b"

/-- The last line of the function of the entry. -/
def closing : Entry → String
  | .module _ trail _ => "\x7d" ++ trail
  | .global _ => "\x7d;"
  | .nested _ => "\x7d"

/-- What follows the function: for a class an empty line and its factory. -/
def behind : Entry → List Line
  | .nested c =>
    [⟨0, ""⟩, ⟨0, classOpening c⟩, ⟨1, "return new _" ++ Name.className c.name ++ "();"⟩,
     ⟨0, "\x7d"⟩]
  | _ => []

/-- The members of the entry. -/
def members (registry : Registry) (e : Entry) : List Line :=
  membersLines e.container.byHand (e.container.classes.flatMap classLines)
    (e.container.specializer registry) e.container.scope

theorem lines_eq (registry : Registry) (e : Entry) :
    e.lines registry =
      ⟨0, e.opening⟩ :: ((e.members registry).map Line.deeper ++ ⟨0, e.closing⟩ :: e.behind) := by
  cases e with
  | module lead trail m => rfl
  | global g => rfl
  | nested c =>
    rw [lines, classLines, frameLines, List.cons_append, List.append_assoc]
    rfl

theorem classViolations_eq_nil {e : Entry} (h : e.violations = []) :
    ∀ k ∈ e.container.classes, classViolations k = [] := by
  have hscope {role : Role} {m : Module} (h : scopeViolations role m = []) :
      ∀ k ∈ m.classes.getD [], classViolations k = [] :=
    List.flatMap_eq_nil_iff.1 (membersViolations_eq_nil_iff.1 (List.append_eq_nil_iff.1 h).2).2.1
  cases e with
  | module lead trail m => exact hscope h
  | global g => exact hscope h
  | nested c => exact fun _ hk => nomatch hk

/-- A class stands among the members behind those of the classes before it. -/
theorem exists_members_eq (registry : Registry) {e : Entry} {before after : List Scope} {k : Scope}
    (h : e.container.classes = before ++ k :: after) :
    ∃ above below, e.members registry = above ++ classLines k ++ below ∧
      assignments 0 above = ownOpenings e.container.scope ++ before.map classOpening := by
  refine ⟨ownLines e.container.byHand e.container.scope ++ before.flatMap classLines,
    after.flatMap classLines ++ (e.container.scope.properties.getD []).flatMap
      (propertyLines (e.container.specializer registry)), ?_, ?_⟩
  · rw [members, membersLines, h, List.flatMap_append, List.flatMap_cons]
    simp only [ownLines, List.append_assoc]
  · rw [assignments_append, assignments_ownLines, assignments_flatMap_of_eq assignments_classLines]

theorem assignments_members (registry : Registry) (e : Entry) :
    assignments 0 (e.members registry) = e.container.openings registry :=
  assignments_membersLines ..

/-- The members of an entry stand in its function in the order of the documentation.

* The first line is that of the function, the last one closes it, and all lines in between are
  deeper. Behind the function of a class follow an empty line and the factory of the class.
* The assignments one level deeper begin the methods, the eight functions that manage listeners if
  events are documented at all, the factories of the classes, and the properties.
* Before the factory of a class stand its whole constructor and an empty line, and before these the
  members that come before the class.
* A writer writes all of this at its own depth and below. -/
theorem members_in_order (registry : Registry) (e : Entry)
    (h : (e.draft registry).result = .ok ()) :
    ∃ body : List Line,
      (e.draft registry).lines = ⟨0, e.opening⟩ :: (body ++ ⟨0, e.closing⟩ :: e.behind) ∧
      (∀ l ∈ body, 0 < l.depth) ∧
      assignments 1 body = e.container.openings registry ∧
      (∀ before k after, e.container.classes = before ++ k :: after →
        ∃ above inside below,
          body = above ++ (classDraft k).lines.map Line.deeper ++ below ∧
          assignments 1 above = ownOpenings e.container.scope ++ before.map classOpening ∧
          (classDraft k).lines = ⟨0, "function _" ++ Name.className k.name ++ "() \x7b"⟩ ::
            (inside ++ [⟨0, "\x7d"⟩, ⟨0, ""⟩,
              ⟨0, "this." ++ Name.className k.name ++ " = function() \x7b"⟩,
              ⟨1, "return new _" ++ Name.className k.name ++ "();"⟩, ⟨0, "\x7d"⟩]) ∧
          ∀ l ∈ inside, 0 < l.depth) ∧
      ∀ w : Writer, w.write (e.draft registry).lines =
        { w with output := w.output ++ indentedLine w.depth e.opening ++ render w.depth body ++
            indentedLine w.depth e.closing ++ render w.depth e.behind } := by
  have hnone : e.violations = [] := result_draft_eq_ok_iff.1 h
  have hdeeper (ls : List Line) : ∀ l ∈ ls.map Line.deeper, 0 < l.depth := by
    intro l hl
    obtain ⟨k, -, rfl⟩ := List.mem_map.1 hl
    exact Nat.succ_pos _
  have hlines := (lines_draft registry hnone).trans (e.lines_eq registry)
  refine ⟨(e.members registry).map Line.deeper, hlines, hdeeper _, ?_, ?_, ?_⟩
  · rw [assignments_deeper, assignments_members]
  · intro before k after hk
    have hclass : (Entry.nested k).violations = [] := classViolations_eq_nil hnone k (by simp [hk])
    have hshape := (lines_draft registry hclass).trans (lines_eq registry (.nested k))
    obtain ⟨above, below, hmembers, habove⟩ := exists_members_eq registry hk
    refine ⟨above.map Line.deeper, _, below.map Line.deeper, ?_, ?_, hshape, hdeeper _⟩
    · have hdraft : (classDraft k).lines = classLines k :=
        lines_draft registry hclass
      rw [hdraft, hmembers, List.map_append, List.map_append]
    · rw [assignments_deeper, habove]
  · intro w
    rw [Writer.write_eq, hlines, render_cons, render_append, render_cons]
    simp only [Nat.add_zero, String.append_assoc]

/-- A module with members of every kind. Its events are documented, but there are none. -/
def everyMemberModule : Module :=
  { name := "net (stable)",
    desc := some "Sockets.",
    methods := some
      [{ name := "connect", signatures := [{ params := [{ name := "port" }] }] },
       { name := "createServer", signatures := [{}] }],
    events := some [],
    classes := some
      [{ name := "net.Server", methods := some [{ name := "listen", signatures := [{}] }] },
       { name := "net.Socket" }],
    properties := some [{ name := "limit", textRaw := some "limit \x7bNumber\x7d" }] }

theorem members_in_order_everyMemberModule :
    ((Entry.module "" ";" everyMemberModule).draft .empty).result = .ok () ∧
      ∃ body : List Line,
        ((Entry.module "" ";" everyMemberModule).draft .empty).lines =
          ⟨0, "function net() \x7b"⟩ :: (body ++ [⟨0, "\x7d;"⟩]) ∧
        assignments 1 body =
          ["this.connect = function(port) \x7b", "this.createServer = function() \x7b"] ++
            listenerOpenings ++
            ["this.Server = function() \x7b", "this.Socket = function() \x7b",
             "this.limit = 0;"] := by
  have hok : ((Entry.module "" ";" everyMemberModule).draft .empty).result = .ok () :=
    result_draft_eq_ok_iff.2 (by decide)
  obtain ⟨body, hlines, -, hopenings, -⟩ :=
    members_in_order .empty (.module "" ";" everyMemberModule) hok
  refine ⟨hok, body, hlines, hopenings.trans ?_⟩
  decide

end Entry

end ApiStubs
