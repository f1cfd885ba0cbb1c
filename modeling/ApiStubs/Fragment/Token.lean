import ApiStubs.Text.Blank
import ApiStubs.Text.CharacterReference
import ApiStubs.Text.Search

/-!
# Tokens of a description fragment

The lexical side of a fragment: what stands at the front of a text, with no regard to which
elements are open.

* `Token`: a tag, a run of text, or something that leaves no trace;
* `Token.read`: the token at the front, and what follows it;
* `Token.length_le_of_read`: a token takes at least one character.
-/

namespace ApiStubs.Fragment

open Text

/-- A lexical unit. -/
inductive Token where
  | startTag (name : String) (selfClosing : Bool)
  | endTag (name : String)
  | text (content : String)
  /-- A comment, a declaration or a blank run of text. -/
  | skipped
  deriving DecidableEq, Repr

/-- What may begin and not end. -/
inductive Token.Unterminated where
  | tag
  | comment
  deriving DecidableEq, Repr

/-- Elements that never have content. -/
def voidElements : List String :=
  ["area", "base", "br", "col", "embed", "hr", "img", "input", "link", "meta", "param",
   "source", "track", "wbr"]

/-- The name with ASCII capitals made small. -/
def elementName (s : List Char) : String := String.ofList (s.map Char.toLower)

/-- A letter of ASCII, with which a start tag begins. -/
def isTagLetter (c : Char) : Bool := c.isAlpha

namespace Token

/-- The inside of a tag and what follows its `>`, given the quote the text stands in. -/
def tagInside? : Option Char → List Char → Option (List Char × List Char)
  | _, [] => none
  | some quote, c :: s =>
    (tagInside? (if c = quote then none else some quote) s).map fun cut => (c :: cut.1, cut.2)
  | none, c :: s =>
    if c = '>' then some ([], s)
    else
      (tagInside? (if c = '"' ∨ c = '\'' then some c else none) s).map fun cut =>
        (c :: cut.1, cut.2)

/-- The name in a start tag: what comes before a blank or a slash. -/
def startTagName (inside : List Char) : String :=
  elementName (inside.takeWhile fun c => !isBlank c && c != '/')

/-- The start tag with this inside. A final slash and a void name both close it. -/
def ofInside (inside : List Char) : Token :=
  let name := startTagName inside
  .startTag name (inside.getLast? == some '/' || voidElements.contains name)

/-- The text token of a run, unless it is blank. -/
def ofRun (run content : List Char) : Token :=
  if allBlank run then .skipped else .text (String.ofList content)

/-- Text from a first character, which may be anything, up to the next `<`. -/
def readText (c : Char) (s : List Char) : Token × List Char :=
  let run := c :: s.takeWhile (· != '<')
  (ofRun run (CharacterReference.decode run), s.dropWhile (· != '<'))

/-- A cut at the end mark, or the report that there is none. -/
def readThrough (mark : List Char) (missing : Unterminated) (token : List Char → Token)
    (s : List Char) : Except Unterminated (Token × List Char) :=
  match splitFirst? mark s with
  | some (inside, rest) => .ok (token inside, rest)
  | none => .error missing

/-- What follows a `<`, when it is no comment and no character data section. -/
def readTag : List Char → Except Unterminated (Token × List Char)
  | [] => .ok (readText '<' [])
  | c :: s =>
    if c = '!' ∨ c = '?' then readThrough ['>'] .tag (fun _ => .skipped) s
    else if c = '/' then readThrough ['>'] .tag (fun name => .endTag (elementName (trim name))) s
    else if isTagLetter c then
      match tagInside? none (c :: s) with
      | some (inside, rest) => .ok (ofInside inside, rest)
      | none => .error .tag
    else .ok (readText '<' (c :: s))

/-- What follows a `<`. -/
def readMarkup (s : List Char) : Except Unterminated (Token × List Char) :=
  match stripPrefix? "!--".toList s with
  | some body => readThrough "-->".toList .comment (fun _ => .skipped) body
  | none =>
    match stripPrefix? "![CDATA[".toList s with
    | some body => readThrough "]]>".toList .tag (fun run => ofRun run run) body
    | none => readTag s

/-- The token that starts with the given character, and the text after it. -/
def read (c : Char) (s : List Char) : Except Unterminated (Token × List Char) :=
  if c = '<' then readMarkup s else .ok (readText c s)

/-! ### A token is never empty -/

/-- The inside of a tag ends before a `>`. -/
theorem eq_append_of_tagInside? {quote : Option Char} {s inside rest : List Char}
    (h : tagInside? quote s = some (inside, rest)) : s = inside ++ '>' :: rest := by
  induction s generalizing quote inside with
  | nil => simp [tagInside?] at h
  | cons c s ih =>
    cases quote with
    | some q =>
      obtain ⟨cut, hc, he⟩ := Option.map_eq_some_iff.1 h
      obtain ⟨rfl, rfl⟩ := by simpa using he
      rw [ih hc, List.cons_append]
    | none =>
      rw [tagInside?] at h
      split at h
      · next hgt =>
        obtain ⟨rfl, rfl⟩ := by simpa using h
        rw [hgt, List.nil_append]
      · obtain ⟨cut, hc, he⟩ := Option.map_eq_some_iff.1 h
        obtain ⟨rfl, rfl⟩ := by simpa using he
        rw [ih hc, List.cons_append]

theorem length_le_of_readText (c : Char) (s : List Char) :
    (readText c s).2.length ≤ s.length :=
  (List.dropWhile_sublist _).length_le

theorem length_le_of_readThrough {mark : List Char} {missing : Unterminated}
    {make : List Char → Token} {s rest : List Char} {t : Token}
    (h : readThrough mark missing make s = .ok (t, rest)) : rest.length ≤ s.length := by
  rw [readThrough] at h
  split at h
  · next inside rest' hs =>
    obtain ⟨rfl, rfl⟩ := by simpa using h
    rw [eq_append_of_splitFirst? hs]
    simp only [List.length_append]
    omega
  · simp at h

theorem length_le_of_readTag {s rest : List Char} {t : Token}
    (h : readTag s = .ok (t, rest)) : rest.length ≤ s.length := by
  cases s with
  | nil =>
    obtain ⟨rfl, rfl⟩ := by simpa [readTag, readText] using h
    simp
  | cons c s =>
    rw [readTag] at h
    split at h
    · have := length_le_of_readThrough h
      simp only [List.length_cons]
      omega
    split at h
    · have := length_le_of_readThrough h
      simp only [List.length_cons]
      omega
    split at h
    · split at h
      · next inside rest' hs =>
        obtain ⟨rfl, rfl⟩ := by simpa using h
        rw [eq_append_of_tagInside? hs]
        simp only [List.length_append, List.length_cons]
        omega
      · simp at h
    · obtain ⟨-, rfl⟩ := by simpa using Prod.ext_iff.1 (Except.ok.inj h)
      exact length_le_of_readText _ _

theorem length_le_of_readMarkup {s rest : List Char} {t : Token}
    (h : readMarkup s = .ok (t, rest)) : rest.length ≤ s.length := by
  rw [readMarkup] at h
  split at h
  · next body hb =>
    have := length_le_of_readThrough h
    rw [stripPrefix?_eq_some_iff.1 hb, List.length_append]
    omega
  split at h
  · next body hb =>
    have := length_le_of_readThrough h
    rw [stripPrefix?_eq_some_iff.1 hb, List.length_append]
    omega
  · exact length_le_of_readTag h

theorem length_le_of_read {c : Char} {s rest : List Char} {t : Token}
    (h : read c s = .ok (t, rest)) : rest.length ≤ s.length := by
  rw [read] at h
  split at h
  · exact length_le_of_readMarkup h
  · obtain ⟨-, rfl⟩ := by simpa using Prod.ext_iff.1 (Except.ok.inj h)
    exact length_le_of_readText _ _

end Token

end ApiStubs.Fragment
