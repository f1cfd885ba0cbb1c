import ApiStubs.Proofs.NameReading
import ApiStubs.Proofs.Runtimes
import ApiStubs.Proofs.ScriptReading

/-!
# Literals of a runtime

The process object has two literals that are written from texts of the runtime: a text, and an
object of two texts. The texts are written between apostrophes as they are. Whether a script then
has them back is a question to a reader of literals that does not know how they were written: it
takes gaps, empty objects, a last comma and every escape sequence.

* `Value`, `value`: literals, and their reader; `assignment`: an assignment to a member of `this`;
* `whole?`: what is read if nothing is left;
* `memberText`, `pairText`: what is written of an object;
* `object_eq_some_iff`: an object is read as what is written there exactly if its texts are plain;
* `ReadsIff`: a literal that is read as a value under a condition, whatever stands around it, and
  so by itself (`ReadsIff.whole`) and in an assignment (`ReadsIff.assigned`);
* `ReadBackIff`: a property of the process object that a script has back under a condition;
* `process_literals_read_iff`: this is so if the texts hold no apostrophe, no backslash and no line
  end, and not otherwise.
-/

namespace ApiStubs.Script

open Text

/-! ### Literals and assignments -/

/-- A literal: a text, or an object with texts for members, in their order. -/
inductive Value where
  | text (units : List Nat)
  | object (members : List (String × List Nat))
  deriving DecidableEq, Repr

/-- The character separates what a script is made of. -/
def isGap (c : Char) : Bool := (isBlank c && c != '\x85') || c == '\ufeff'

/-- The text, perhaps behind a gap. -/
def mark (text : String) : Scan Unit := do
  let _ ← Scan.run isGap
  Scan.exactly text

/-- A name, perhaps behind a gap. -/
def word : Scan String := do
  let _ ← Scan.run isGap
  let name ← Scan.run1 Name.isClassChar
  return String.ofList name

/-- A text between apostrophes. -/
def quoted : Scan (List Nat) := do
  mark "'"
  quotedRest

/-- A member of an object. -/
def member : Scan (String × List Nat) := do
  let name ← word
  mark ":"
  let value ← quoted
  return (name, value)

/-- A further member of an object. -/
def nextMember : Scan (String × List Nat) := do
  mark ","
  member

/-- The members of an object, at least one. -/
def members : Scan (List (String × List Nat)) := do
  let first ← member
  let more ← Scan.many nextMember
  let _ ← Scan.optional (mark ",")
  return first :: more

/-- An object between braces. -/
def object : Scan (List (String × List Nat)) := do
  mark "\x7b"
  let found ← Scan.optional members
  mark "\x7d"
  return found.getD []

/-- A literal. -/
def value : Scan Value := fun s =>
  match quoted s with
  | some (units, rest) => some (.text units, rest)
  | none => (object s).map fun (members, rest) => (.object members, rest)

/-- An assignment to a member of `this`: the name of the member, and the literal. -/
def assignment : Scan (String × Value) := do
  mark "this"
  mark "."
  let name ← word
  mark "="
  let assigned ← value
  mark ";"
  return (name, assigned)

/-- What a scan reads if nothing but a gap is left. -/
def whole? {α : Type} (p : Scan α) (s : String) : Option α :=
  (p s.toList).bind fun read => if read.2.all isGap then some read.1 else none

/-! ### Marks and names -/

theorem isGap_nil : [].all isGap = true := rfl

theorem isGap_space : [' '].all isGap = true := by decide

section

variable {gap : List Char} (hg : gap.all isGap = true)

include hg

theorem run_gap {c : Char} (hc : isGap c = false) (s : List Char) :
    Scan.run isGap (gap ++ c :: s) = some (gap, c :: s) :=
  run_append (fun d hd => List.all_eq_true.1 hg d hd) hc s

theorem mark_append {pattern : String} {c : Char} (hp : pattern.toList = [c])
    (hc : isGap c = false) (s : List Char) : mark pattern (gap ++ c :: s) = some ((), s) := by
  rw [mark, Scan.bind_of_some (run_gap hg hc s)]
  exact Scan.exactly_eq_some_iff.2 (by rw [hp, List.singleton_append])

theorem mark_eq_none {pattern : String} {c d : Char} (hp : pattern.toList = [c])
    (hd : isGap d = false) (hne : d ≠ c) (s : List Char) : mark pattern (gap ++ d :: s) = none := by
  rw [mark, Scan.bind_of_some (run_gap hg hd s)]
  show (stripPrefix? pattern.toList (d :: s)).map _ = none
  rw [hp, stripPrefix?, if_neg (Ne.symm hne)]
  rfl

theorem quoted_append (s : List Char) : quoted (gap ++ '\'' :: s) = quotedRest s := by
  rw [quoted]
  exact Scan.bind_of_some (mark_append hg rfl (by decide) s) _

theorem quoted_eq_none {d : Char} (hd : isGap d = false) (hne : d ≠ '\'') (s : List Char) :
    quoted (gap ++ d :: s) = none := by
  rw [quoted]
  exact Scan.bind_of_none (mark_eq_none hg rfl hd hne s) _

end

/-- The name is read as a word: it is made of the characters of one, and begins with no gap. -/
def isWord (name : String) : Bool :=
  name.toList.all Name.isClassChar && name.toList.head?.any fun c => !isGap c

theorem word_append {gap : List Char} (hg : gap.all isGap = true) {name : String}
    (hname : isWord name = true) {c : Char} (hc : Name.isClassChar c = false) (s : List Char) :
    word (gap ++ (name.toList ++ c :: s)) = some (name, c :: s) := by
  obtain ⟨hchars, hhead⟩ := Bool.and_eq_true_iff.1 hname
  obtain ⟨d, hd, hgap⟩ := (Option.any_eq_true _ _).1 hhead
  obtain ⟨ds, hds⟩ := List.head?_eq_some_iff.1 hd
  have hrun : Scan.run isGap (gap ++ (name.toList ++ c :: s)) =
      some (gap, name.toList ++ c :: s) := by
    rw [hds]
    exact run_gap hg (by simpa using hgap) _
  have hword : Scan.run1 Name.isClassChar (name.toList ++ c :: s) = some (name.toList, c :: s) := by
    rw [Scan.run1, Scan.bind_of_some (run_append (List.all_eq_true.1 hchars) hc s), hds]
    rfl
  rw [word, Scan.bind_of_some hrun, Scan.bind_of_some hword, String.ofList_toList]
  rfl

/-! ### Objects -/

/-- A member of an object whose text is written as it is. -/
def memberText (name : String) (s : List Char) : List Char :=
  name.toList ++ ':' :: ' ' :: '\'' :: (s ++ ['\''])

/-- An object of two texts that are written as they are. -/
def pairText (first second : String) (s t : List Char) : List Char :=
  '\x7b' :: (memberText first s ++ ',' :: ' ' :: (memberText second t ++ ['\x7d']))

theorem pairText_append (first second : String) (s t rest : List Char) :
    pairText first second s t ++ rest = '\x7b' ::
      (memberText first s ++ ',' :: ' ' :: (memberText second t ++ '\x7d' :: rest)) := by
  simp [pairText]

section

variable {name first second : String} (hname : isWord name = true) (hfirst : isWord first = true)
  (hsecond : isWord second = true) {s t rest rest' : List Char}

include hname in
/-- A member is read as what is written there exactly if its text is plain. -/
theorem member_eq_some_iff {gap : List Char} (hg : gap.all isGap = true) :
    member (gap ++ (memberText name s ++ t)) = some ((name, units s), rest) ↔
      isPlain s = true ∧ rest = t := by
  have htext : memberText name s ++ t =
      name.toList ++ ':' :: ' ' :: '\'' :: (s ++ '\'' :: t) := by
    simp [memberText]
  have hcolon : mark ":" (':' :: ' ' :: '\'' :: (s ++ '\'' :: t)) =
      some ((), ' ' :: '\'' :: (s ++ '\'' :: t)) :=
    mark_append isGap_nil rfl (by decide) _
  have hquoted : quoted (' ' :: '\'' :: (s ++ '\'' :: t)) = quotedRest (s ++ '\'' :: t) :=
    quoted_append isGap_space _
  rw [htext, member, Scan.bind_of_some (word_append hg hname (by decide) _),
    Scan.bind_of_some hcolon, Scan.bind_eq_some_iff, ← quotedRest_eq_some_iff, hquoted]
  constructor
  · rintro ⟨value, behind, hread, he⟩
    obtain ⟨hm, rfl⟩ := Prod.mk.inj (Option.some.inj he)
    obtain ⟨-, rfl⟩ := Prod.mk.inj hm
    exact hread
  · intro h
    exact ⟨_, _, h, rfl⟩

include hname in
theorem nextMember_eq_some_iff :
    nextMember (',' :: ' ' :: (memberText name s ++ t)) = some ((name, units s), rest) ↔
      isPlain s = true ∧ rest = t := by
  have hcomma : mark "," (',' :: ' ' :: (memberText name s ++ t)) =
      some ((), ' ' :: (memberText name s ++ t)) :=
    mark_append isGap_nil rfl (by decide) _
  rw [nextMember, Scan.bind_of_some hcomma]
  show member ([' '] ++ (memberText name s ++ t)) = _ ↔ _
  exact member_eq_some_iff hname isGap_space

include hfirst hsecond

theorem members_pair (hs : isPlain s = true) (ht : isPlain t = true) (rest : List Char) :
    members (memberText first s ++ ',' :: ' ' :: (memberText second t ++ '\x7d' :: rest)) =
      some ([(first, units s), (second, units t)], '\x7d' :: rest) := by
  have hcomma : mark "," ('\x7d' :: rest) = none :=
    mark_eq_none isGap_nil rfl (by decide) (by decide) rest
  have hmember (more : List Char) :
      member (memberText first s ++ more) = some ((first, units s), more) :=
    (member_eq_some_iff hfirst isGap_nil).2 ⟨hs, rfl⟩
  have hmany : Scan.many nextMember
      ([t].flatMap (fun t => ',' :: ' ' :: memberText second t) ++ '\x7d' :: rest) =
        some ([t].map fun t => (second, units t), '\x7d' :: rest) := by
    refine Scan.many_flatMap (fun u hu more => ?_) (by simp) ?_
    · obtain rfl := List.mem_singleton.1 hu
      exact (nextMember_eq_some_iff hsecond).2 ⟨ht, rfl⟩
    · rw [nextMember]
      exact Scan.bind_of_none hcomma _
  have hoptional : Scan.optional (mark ",") ('\x7d' :: rest) = some (none, '\x7d' :: rest) := by
    rw [Scan.optional, hcomma]
  have htext : ',' :: ' ' :: (memberText second t ++ '\x7d' :: rest) =
      [t].flatMap (fun t => ',' :: ' ' :: memberText second t) ++ '\x7d' :: rest := by simp
  rw [members, Scan.bind_of_some (hmember _), htext, Scan.bind_of_some hmany,
    Scan.bind_of_some hoptional]
  rfl

/-- If the members are read as what is written there, each of their texts is. -/
theorem isPlain_of_members {more : List Char} (h : members (memberText first s ++ ',' :: ' ' ::
      (memberText second t ++ more)) = some ([(first, units s), (second, units t)], rest)) :
    isPlain s = true ∧ isPlain t = true := by
  rw [members] at h
  obtain ⟨m, _, hmember, h⟩ := Scan.bind_eq_some_iff.1 h
  obtain ⟨ms, _, hmany, h⟩ := Scan.bind_eq_some_iff.1 h
  obtain ⟨_, _, -, h⟩ := Scan.bind_eq_some_iff.1 h
  obtain ⟨hms, -⟩ := Prod.mk.inj (Option.some.inj h)
  obtain ⟨rfl, rfl⟩ := List.cons.inj hms
  obtain ⟨hs, rfl⟩ := (member_eq_some_iff hfirst isGap_nil).1 hmember
  obtain ⟨_, hnext⟩ := Scan.exists_of_many_cons hmany
  exact ⟨hs, ((nextMember_eq_some_iff hsecond).1 hnext).1⟩

theorem object_pairText {gap : List Char} (hg : gap.all isGap = true) (hs : isPlain s = true)
    (ht : isPlain t = true) (rest : List Char) :
    object (gap ++ (pairText first second s t ++ rest)) =
      some ([(first, units s), (second, units t)], rest) := by
  have hmembers : Scan.optional members (memberText first s ++ ',' :: ' ' ::
      (memberText second t ++ '\x7d' :: rest)) =
        some (some [(first, units s), (second, units t)], '\x7d' :: rest) := by
    rw [Scan.optional, members_pair hfirst hsecond hs ht]
  have hclose : mark "\x7d" ('\x7d' :: rest) = some ((), rest) :=
    mark_append isGap_nil rfl (by decide) rest
  rw [pairText_append, object, Scan.bind_of_some (mark_append hg rfl (by decide) _),
    Scan.bind_of_some hmembers, Scan.bind_of_some hclose]
  rfl

theorem isPlain_of_object {gap : List Char} (hg : gap.all isGap = true)
    (h : object (gap ++ (pairText first second s t ++ rest)) =
      some ([(first, units s), (second, units t)], rest')) :
    isPlain s = true ∧ isPlain t = true := by
  rw [pairText_append, object, Scan.bind_of_some (mark_append hg rfl (by decide) _)] at h
  obtain ⟨found, _, hfound, h⟩ := Scan.bind_eq_some_iff.1 h
  obtain ⟨_, _, -, h⟩ := Scan.bind_eq_some_iff.1 h
  obtain ⟨hms, -⟩ := Prod.mk.inj (Option.some.inj h)
  unfold Scan.optional at hfound
  split at hfound
  · next ms _ hread =>
    obtain ⟨rfl, -⟩ := Prod.mk.inj (Option.some.inj hfound)
    obtain rfl : ms = _ := hms
    exact isPlain_of_members hfirst hsecond hread
  · obtain ⟨rfl, -⟩ := Prod.mk.inj (Option.some.inj hfound)
    cases hms

/-- An object is read as what is written there exactly if its texts are plain. -/
theorem object_eq_some_iff {gap : List Char} (hg : gap.all isGap = true) :
    object (gap ++ (pairText first second s t ++ rest)) =
      some ([(first, units s), (second, units t)], rest') ↔
        (isPlain s = true ∧ isPlain t = true) ∧ rest' = rest := by
  constructor
  · intro h
    obtain ⟨hs, ht⟩ := isPlain_of_object hfirst hsecond hg h
    rw [object_pairText hfirst hsecond hg hs ht] at h
    exact ⟨⟨hs, ht⟩, (congrArg Prod.snd (Option.some.inj h)).symm⟩
  · rintro ⟨⟨hs, ht⟩, rfl⟩
    exact object_pairText hfirst hsecond hg hs ht rest'

end

/-! ### Literals -/

/-- Whatever stands around it, the literal is read as the value exactly under the condition. -/
def ReadsIff (literal : List Char) (v : Value) (condition : Prop) : Prop :=
  ∀ gap : List Char, gap.all isGap = true → ∀ rest rest' : List Char,
    value (gap ++ (literal ++ rest)) = some (v, rest') ↔ condition ∧ rest' = rest

theorem readsIff_text (s : List Char) :
    ReadsIff ('\'' :: (s ++ ['\''])) (.text (units s)) (isPlain s = true) := by
  intro gap hg rest rest'
  have htext : gap ++ ('\'' :: (s ++ ['\'']) ++ rest) = gap ++ '\'' :: (s ++ '\'' :: rest) := by
    simp
  have hobject : object (gap ++ '\'' :: (s ++ '\'' :: rest)) = none := by
    rw [object]
    exact Scan.bind_of_none (mark_eq_none hg rfl (by decide) (by decide) _) _
  rw [htext, value, quoted_append hg, ← quotedRest_eq_some_iff, hobject]
  cases quotedRest (s ++ '\'' :: rest) with
  | none => exact ⟨fun h => (by cases h), fun h => (by cases h)⟩
  | some read => simp [Prod.ext_iff]

theorem readsIff_object {first second : String} (hfirst : isWord first = true)
    (hsecond : isWord second = true) (s t : List Char) :
    ReadsIff (pairText first second s t) (.object [(first, units s), (second, units t)])
      (isPlain s = true ∧ isPlain t = true) := by
  intro gap hg rest rest'
  have hquoted : quoted (gap ++ (pairText first second s t ++ rest)) = none :=
    quoted_eq_none hg (by decide) (by decide) _
  rw [value, hquoted, ← object_eq_some_iff hfirst hsecond hg, Option.map_eq_some_iff]
  constructor
  · rintro ⟨read, hread, he⟩
    obtain ⟨hms, rfl⟩ := Prod.mk.inj he
    rw [hread, ← Value.object.inj hms]
  · intro h
    exact ⟨_, h, rfl⟩

theorem whole?_eq_some_iff {α : Type} {p : Scan α} {s : String} {a : α} :
    whole? p s = some a ↔ ∃ rest, p s.toList = some (a, rest) ∧ rest.all isGap = true := by
  unfold whole?
  constructor
  · intro h
    obtain ⟨⟨a', rest⟩, hread, he⟩ := Option.bind_eq_some_iff.1 h
    split at he
    · next hgap =>
      obtain rfl := Option.some.inj he
      exact ⟨rest, hread, hgap⟩
    · cases he
  · rintro ⟨rest, hread, hgap⟩
    rw [hread, Option.bind_some, if_pos hgap]

/-- A literal by itself. -/
theorem ReadsIff.whole {literal : List Char} {v : Value} {condition : Prop}
    (h : ReadsIff literal v condition) :
    whole? value (String.ofList literal) = some v ↔ condition := by
  have hvalue := h [] rfl []
  rw [List.append_nil, List.nil_append] at hvalue
  rw [whole?_eq_some_iff, String.toList_ofList]
  constructor
  · rintro ⟨rest, hread, -⟩
    exact ((hvalue rest).1 hread).1
  · intro hc
    exact ⟨[], (hvalue []).2 ⟨hc, rfl⟩, rfl⟩

theorem assignment_eq_some_iff {name : String} (hname : isWord name = true) {s rest : List Char}
    {v : Value} :
    assignment ("this".toList ++ '.' :: (name.toList ++ ' ' :: '=' :: s)) = some ((name, v), rest) ↔
      ∃ t, value s = some (v, t) ∧ mark ";" t = some ((), rest) := by
  have hthis : mark "this" ("this".toList ++ '.' :: (name.toList ++ ' ' :: '=' :: s)) =
      some ((), '.' :: (name.toList ++ ' ' :: '=' :: s)) := by
    have hrun : Scan.run isGap ("this".toList ++ '.' :: (name.toList ++ ' ' :: '=' :: s)) =
        some ([], "this".toList ++ '.' :: (name.toList ++ ' ' :: '=' :: s)) :=
      run_gap isGap_nil (by decide : isGap 't' = false) _
    rw [mark, Scan.bind_of_some hrun]
    exact Scan.exactly_eq_some_iff.2 rfl
  have hdot : mark "." ('.' :: (name.toList ++ ' ' :: '=' :: s)) =
      some ((), name.toList ++ ' ' :: '=' :: s) :=
    mark_append isGap_nil rfl (by decide) _
  have hword : word (name.toList ++ ' ' :: '=' :: s) = some (name, ' ' :: '=' :: s) :=
    word_append isGap_nil hname (by decide) _
  have hequals : mark "=" (' ' :: '=' :: s) = some ((), s) :=
    mark_append isGap_space rfl (by decide) _
  rw [assignment, Scan.bind_of_some hthis, Scan.bind_of_some hdot, Scan.bind_of_some hword,
    Scan.bind_of_some hequals, Scan.bind_eq_some_iff]
  constructor
  · rintro ⟨v', t, hread, h⟩
    obtain ⟨_, behind, hend, he⟩ := Scan.bind_eq_some_iff.1 h
    obtain ⟨hpair, rfl⟩ := Prod.mk.inj (Option.some.inj he)
    obtain ⟨-, rfl⟩ := Prod.mk.inj hpair
    exact ⟨t, hread, hend⟩
  · rintro ⟨t, hread, hend⟩
    exact ⟨v, t, hread, Scan.bind_eq_some_iff.2 ⟨(), rest, hend, rfl⟩⟩

/-- A literal that is assigned to a member. -/
theorem ReadsIff.assigned {literal : List Char} {v : Value} {condition : Prop}
    (h : ReadsIff literal v condition) {name : String} (hname : isWord name = true) :
    whole? assignment ("this." ++ name ++ " = " ++ String.ofList literal ++ ";") =
      some (name, v) ↔ condition := by
  have hvalue := h [' '] isGap_space [';']
  rw [List.singleton_append] at hvalue
  have htext : ("this." ++ name ++ " = " ++ String.ofList literal ++ ";").toList =
      "this".toList ++ '.' :: (name.toList ++ ' ' :: '=' :: ' ' :: (literal ++ [';'])) := by
    simp
  have hend : mark ";" [';'] = some ((), []) := mark_append isGap_nil rfl (by decide) []
  rw [whole?_eq_some_iff, htext]
  constructor
  · rintro ⟨rest, hread, -⟩
    obtain ⟨t, hv, -⟩ := (assignment_eq_some_iff hname).1 hread
    exact ((hvalue t).1 hv).1
  · intro hc
    have hv := (hvalue [';']).2 ⟨hc, rfl⟩
    exact ⟨[], (assignment_eq_some_iff hname).2 ⟨[';'], hv, hend⟩, rfl⟩

end ApiStubs.Script

/-! ### The process object -/

namespace ApiStubs

open Doc Inference Script Stub Text

theorem specializer_platform (r : Runtime) : r.specializer "platform" =
    some (String.ofList ('\'' :: (r.platform.toList ++ ['\'']))) := by
  refine congrArg some (String.toList_inj.1 ?_)
  simp [apostrophed]

theorem specializer_versions (r : Runtime) : r.specializer "versions" =
    some (String.ofList (pairText "node" "v8" r.nodeVersion.toList r.v8Version.toList)) := by
  refine congrArg some (String.toList_inj.1 ?_)
  simp [apostrophed, pairText, memberText]

/-- The properties that show the runtime are named by words, which are written as they are. -/
theorem names_runtimeProperties : ∀ name ∈ runtimeProperties,
    isWord name = true ∧ Name.identifier name = name ∧ isOneLine name.toList = true := by
  decide

theorem mem_runtimeProperties_of_showsRuntime {p : Property} (h : p.showsRuntime = true) :
    p.name ∈ runtimeProperties := by
  obtain ⟨h, -⟩ := Bool.and_eq_true_iff.1 h
  obtain ⟨h, -⟩ := Bool.and_eq_true_iff.1 h
  exact List.contains_iff_mem.1 h

/-- The line of a property of the process object that shows the runtime. -/
def assignedText (name : String) (literal : List Char) : String :=
  "this." ++ name ++ " = " ++ String.ofList literal ++ ";"

theorem lines_propertyDraft_of_showsRuntime {r : Runtime} {p : Property}
    (h : p.showsRuntime = true) {literal : List Char}
    (hl : r.specializer p.name = some (String.ofList literal)) :
    (propertyDraft processContainer ((Registry.ofRuntime r).get? processContainer) p).lines =
      fieldLines p ++ [⟨0, assignedText p.name literal⟩] := by
  obtain ⟨hword, hname, -⟩ := names_runtimeProperties p.name
    (mem_runtimeProperties_of_showsRuntime h)
  have hviolations : nameViolations processContainer p.name = [] := by
    rw [nameViolations, hname, if_neg]
    intro he
    rw [he] at hword
    cases hword
  rw [(writes_propertyDraft hviolations).lines_eq, propertyLines, valueLine,
    inferDefault_of_showsRuntime h, get?_ofRuntime, if_pos rfl, Option.bind_some, hl, hname]
  rfl

theorem isOneLine_assignedText {name : String} (hname : isOneLine name.toList = true)
    (literal : List Char) : isOneLine (assignedText name literal).toList = isOneLine literal := by
  have hthis : isOneLine "this.".toList = true := by decide
  have hequals : isOneLine " = ".toList = true := by decide
  have hend : isOneLine ";".toList = true := by decide
  unfold isOneLine at hname hthis hequals hend ⊢
  simp only [assignedText, String.toList_append, String.toList_ofList, List.all_append, hname,
    hthis, hequals, hend, Bool.true_and, Bool.and_true]

/-- A property of the process object whose literal is written from texts of the runtime. -/
structure ReadBackIff (r : Runtime) (name : String) (v : Script.Value) (texts : List String) :
    Prop where
  /-- The literal is read as the value exactly if the texts are plain. -/
  literal : ∃ literal, r.specializer name = some literal ∧
    (whole? value literal = some v ↔ ∀ t ∈ texts, isPlain t.toList = true)
  /-- So is what the line of the property assigns, if the documentation gives no type. This is a
  single line exactly if the texts are. -/
  line : ∀ p : Property, p.name = name → p.showsRuntime = true → ∃ text,
    (propertyDraft processContainer ((Registry.ofRuntime r).get? processContainer) p).lines =
      fieldLines p ++ [⟨0, text⟩] ∧
    (whole? assignment text = some (name, v) ↔ ∀ t ∈ texts, isPlain t.toList = true) ∧
    (isOneLine text.toList = true ↔ ∀ t ∈ texts, isOneLine t.toList = true)

theorem readBackIff_of_readsIff {r : Runtime} {name : String} {v : Script.Value}
    {texts : List String} {literal : List Char}
    (hl : r.specializer name = some (String.ofList literal))
    (hreads : ReadsIff literal v (∀ t ∈ texts, isPlain t.toList = true))
    (hline : isOneLine literal = true ↔ ∀ t ∈ texts, isOneLine t.toList = true) :
    ReadBackIff r name v texts where
  literal := ⟨_, hl, hreads.whole⟩
  line p hp hshows := by
    subst hp
    obtain ⟨hword, -, hname⟩ := names_runtimeProperties p.name
      (mem_runtimeProperties_of_showsRuntime hshows)
    refine ⟨assignedText p.name literal, lines_propertyDraft_of_showsRuntime hshows hl,
      hreads.assigned hword, ?_⟩
    rw [isOneLine_assignedText hname, hline]

/-- The literals of the process object are read back exactly if the texts of the runtime hold no
apostrophe, no backslash and no line end, and so are the lines that assign them. -/
theorem process_literals_read_iff (r : Runtime) :
    ReadBackIff r "platform" (.text (units r.platform.toList)) [r.platform] ∧
    ReadBackIff r "versions"
      (.object [("node", units r.nodeVersion.toList), ("v8", units r.v8Version.toList)])
      [r.nodeVersion, r.v8Version] := by
  constructor
  · refine readBackIff_of_readsIff (specializer_platform r) ?_ ?_
    · simpa using readsIff_text r.platform.toList
    · simp [isOneLine, isLineEnd]
  · refine readBackIff_of_readsIff (specializer_versions r) ?_ ?_
    · simpa using readsIff_object (by decide) (by decide) r.nodeVersion.toList r.v8Version.toList
    · simp [isOneLine, isLineEnd, pairText, memberText]

/-- A runtime with an apostrophe in its platform. -/
def quotedRuntime : Runtime := { platform := "it's" }

/-- A runtime with a line feed in its platform. -/
def brokenRuntime : Runtime := { platform := "a\nb" }

/-- An apostrophe ends the literal, and a line feed the line. -/
theorem process_literals_unread :
    (quotedRuntime.specializer "platform" = some "'it's'" ∧
      whole? value "'it's'" ≠ some (.text (units quotedRuntime.platform.toList))) ∧
    (propertyDraft processContainer ((Registry.ofRuntime brokenRuntime).get? processContainer)
      { name := "platform" }).lines = [⟨0, "this.platform = 'a\nb';"⟩] ∧
    whole? assignment "this.platform = 'a\nb';" = none :=
  ⟨⟨rfl, by decide⟩, by decide, by decide⟩

end ApiStubs
