import ApiStubs.Proofs.TokenShapes

/-!
# Writing markup and reading it back

A forest of elements, comments and texts is written as markup in one way. Reading what is written
gives the events of the forest in document order, whatever stands after it.

* `TagName`, `Attribute`, `Leaf`, `Forest`: markup by its structure;
* `Forest.written`, `Forest.events`: its text and its events;
* `Forest.separated`: no two texts are neighbours, so that they stay two texts;
* `readFrom_written`: reading a written forest among open elements and before any rest;
* `readFrom_rootElement`: reading it inside the root element;
* `read_written`: reading a written forest as a fragment.
-/

namespace ApiStubs.Fragment

open Text

/-! ### Markup -/

/-- The name of an element as it is written: a small letter of ASCII, then such letters and
digits. -/
structure TagName where
  initial : Char
  others : List Char
  isLower_initial : initial.isLower = true
  isLower_or_isDigit_others : ∀ c ∈ others, c.isLower = true ∨ c.isDigit = true

/-- An attribute: a name of small letters of ASCII and a value that a double quote can end. -/
structure Attribute where
  name : List Char
  value : List Char
  isLower_name : ∀ c ∈ name, c.isLower = true
  quote_notMem_value : '"' ∉ value

/-- The characters of a name. -/
def TagName.chars (n : TagName) : List Char := n.initial :: n.others

/-- The name as events give it. -/
def TagName.text (n : TagName) : String := String.ofList n.chars

/-- The element never has content. -/
def TagName.isVoid (n : TagName) : Bool := voidElements.contains n.text

/-- Markup without markup inside. -/
inductive Leaf where
  /-- An element that never has content, written without a slash. -/
  | void (name : TagName) (attributes : List Attribute) (h : name.isVoid = true)
  /-- An element that is closed where it opens, by a slash. -/
  | selfClosed (name : TagName) (attributes : List Attribute)
  | comment (content : List Char) (h : contains commentEnd content = false)
  | text (content : List Char)

/-- Markup side by side: nothing, or a first node with the nodes that follow it. -/
inductive Forest where
  | nil
  | leaf (node : Leaf) (following : Forest)
  | element (name : TagName) (attributes : List Attribute) (h : name.isVoid = false)
      (children following : Forest)

/-! ### Written markup -/

/-- An attribute with the space before it. -/
def Attribute.written (a : Attribute) : List Char :=
  ' ' :: (a.name ++ '=' :: '"' :: (a.value ++ ['"']))

/-- A name with its attributes, as they stand in a start tag. -/
def tagInside (name : TagName) (attributes : List Attribute) : List Char :=
  name.chars ++ attributes.flatMap Attribute.written

/-- A character of text as it is written. -/
def escapedChar (c : Char) : List Char :=
  if c = '&' then "&amp;".toList
  else if c = '<' then "&lt;".toList
  else if c = '>' then "&gt;".toList
  else [c]

/-- Text as it is written. -/
def escapedText (s : List Char) : List Char := s.flatMap escapedChar

def Leaf.written : Leaf → List Char
  | .void name attributes _ => '<' :: (tagInside name attributes ++ ['>'])
  | .selfClosed name attributes => '<' :: (tagInside name attributes ++ ['/', '>'])
  | .comment content _ => "<!--".toList ++ (content ++ commentEnd)
  | .text content => escapedText content

def Forest.written : Forest → List Char
  | .nil => []
  | .leaf node following => node.written ++ following.written
  | .element name attributes _ children following =>
    '<' :: (tagInside name attributes ++ '>' :: (children.written ++
      ('<' :: '/' :: (name.chars ++ '>' :: following.written))))

/-! ### The events of markup -/

/-- A text counts unless it is blank, and a comment does not. -/
def Leaf.events : Leaf → List Event
  | .void name _ _ => [.start name.text true]
  | .selfClosed name _ => [.start name.text true]
  | .comment _ _ => []
  | .text content => if allBlank content then [] else [.text (String.ofList content)]

/-- The events of the nodes in document order. -/
def Forest.events : Forest → List Event
  | .nil => []
  | .leaf node following => node.events ++ following.events
  | .element name _ _ children following =>
    .start name.text false :: (children.events ++ .stop name.text :: following.events)

def Leaf.isText : Leaf → Bool
  | .text _ => true
  | _ => false

/-- The first node is a text. -/
def Forest.startsWithText : Forest → Bool
  | .leaf node _ => node.isText
  | _ => false

/-- No text follows a text, here and inside all elements. -/
def Forest.separated : Forest → Bool
  | .nil => true
  | .leaf node following => !(node.isText && following.startsWithText) && following.separated
  | .element _ _ _ children following => children.separated && following.separated

/-! ### Names and attributes -/

/-- A small letter or a digit of ASCII, by its code point. -/
theorem toNat_of_isLower_or_isDigit {c : Char} (h : c.isLower = true ∨ c.isDigit = true) :
    (97 ≤ c.toNat ∧ c.toNat ≤ 122) ∨ (48 ≤ c.toNat ∧ c.toNat ≤ 57) := by
  rcases h with h | h
  · left
    obtain ⟨hl, hu⟩ := Bool.and_eq_true_iff.1 h
    exact ⟨UInt32.le_iff_toNat_le.1 (of_decide_eq_true hl),
      UInt32.le_iff_toNat_le.1 (of_decide_eq_true hu)⟩
  · right
    obtain ⟨hl, hu⟩ := Bool.and_eq_true_iff.1 h
    exact ⟨UInt32.le_iff_toNat_le.1 (of_decide_eq_true hl),
      UInt32.le_iff_toNat_le.1 (of_decide_eq_true hu)⟩

theorem isBlank_eq_false {c : Char} (h : c.isLower = true ∨ c.isDigit = true) :
    isBlank c = false := by
  have hn := toNat_of_isLower_or_isDigit h
  -- no blank stands between the first digit and the last small letter
  have hfar : ∀ r ∈ blankRanges, r.2 < 48 ∨ 122 < r.1 := by decide
  rw [Bool.eq_false_iff]
  intro hb
  obtain ⟨r, hr, hl, hu⟩ := inRanges_iff.1 hb
  have := hfar r hr
  omega

theorem toLower_eq_self {c : Char} (h : c.isLower = true ∨ c.isDigit = true) : c.toLower = c := by
  have hn := toNat_of_isLower_or_isDigit h
  have hu : ¬(c.val ≥ 'A'.val ∧ c.val ≤ 'Z'.val) := by
    rintro ⟨hl, hu⟩
    have hl : 65 ≤ c.toNat := UInt32.le_iff_toNat_le.1 hl
    have hu : c.toNat ≤ 90 := UInt32.le_iff_toNat_le.1 hu
    omega
  exact dif_neg hu

/-- No character of a name ends the name, opens a quote or ends the tag. -/
theorem ne_of_isLower_or_isDigit {c : Char} (h : c.isLower = true ∨ c.isDigit = true) :
    c ≠ '/' ∧ c ≠ '>' ∧ c ≠ '"' ∧ c ≠ '\'' := by
  refine ⟨?_, ?_, ?_, ?_⟩ <;> rintro rfl <;> revert h <;> decide

namespace TagName

theorem isLower_or_isDigit (n : TagName) : ∀ c ∈ n.chars, c.isLower = true ∨ c.isDigit = true := by
  intro c hc
  rcases List.mem_cons.1 hc with rfl | hc
  · exact .inl n.isLower_initial
  · exact n.isLower_or_isDigit_others c hc

/-- The names of events are in small letters already. -/
theorem elementName_chars (n : TagName) : elementName n.chars = n.text := by
  have h : n.chars.map Char.toLower = n.chars := by
    rw [List.map_congr_left fun c hc => toLower_eq_self (n.isLower_or_isDigit c hc), List.map_id']
  rw [elementName, h, text]

theorem trim_chars (n : TagName) : trim n.chars = n.chars := by
  have hb : n.chars.any isBlank = false := List.any_eq_false.2 fun c hc => by
    simp [isBlank_eq_false (n.isLower_or_isDigit c hc)]
  have hne : n.chars ≠ [] := List.cons_ne_nil _ _
  exact (trim_eq_iff hne hb).2 ⟨[], [], rfl, rfl, by simp⟩

theorem gt_notMem_chars (n : TagName) : '>' ∉ n.chars := fun h =>
  (ne_of_isLower_or_isDigit (n.isLower_or_isDigit _ h)).2.1 rfl

end TagName

theorem Attribute.enclosed (a : Attribute) : Token.Enclosed a.written := by
  have hn : Token.Enclosed (' ' :: (a.name ++ ['='])) := by
    refine Token.enclosed_of_plain fun c hc => ?_
    rcases List.mem_cons.1 hc with rfl | hc
    · decide
    rcases List.mem_append.1 hc with hc | hc
    · exact (ne_of_isLower_or_isDigit (.inl (a.isLower_name c hc))).2
    · obtain rfl : c = '=' := by simpa using hc
      decide
  have h := hn.append (Token.enclosed_quoted a.quote_notMem_value)
  simpa [written] using h

theorem enclosed_tagInside (name : TagName) (attributes : List Attribute) :
    Token.Enclosed (tagInside name attributes) := by
  refine Token.Enclosed.append (Token.enclosed_of_plain fun c hc => ?_) ?_
  · exact (ne_of_isLower_or_isDigit (name.isLower_or_isDigit c hc)).2
  · induction attributes with
    | nil => exact Token.enclosed_nil
    | cons a attributes ih => exact a.enclosed.append ih

/-- The name of a start tag is what stands before the attributes and the slash. -/
theorem startTagName_tagInside (name : TagName) (attributes : List Attribute) (slash : List Char)
    (hs : ∀ c ∈ slash.head?, c = '/') :
    Token.startTagName (tagInside name attributes ++ slash) = name.text := by
  have hn : ∀ c ∈ name.chars, (!isBlank c && c != '/') = true := by
    intro c hc
    have h := name.isLower_or_isDigit c hc
    simp [isBlank_eq_false h, (ne_of_isLower_or_isDigit h).1]
  have hr : (attributes.flatMap Attribute.written ++ slash).takeWhile
      (fun c => !isBlank c && c != '/') = [] := by
    cases attributes with
    | nil =>
      cases slash with
      | nil => rfl
      | cons c slash => simp [hs c rfl]
    | cons a attributes =>
      have hb : isBlank ' ' = true := by decide
      simp [Attribute.written, hb]
  rw [Token.startTagName, tagInside, List.append_assoc, List.takeWhile_append_of_pos hn, hr,
    List.append_nil, name.elementName_chars]

theorem getLast?_tagInside (name : TagName) (attributes : List Attribute) :
    (tagInside name attributes).getLast? ≠ some '/' := by
  rcases attributes.eq_nil_or_concat with rfl | ⟨earlier, last, rfl⟩
  · intro h
    have hm : '/' ∈ name.chars := by
      simpa [tagInside] using List.mem_of_getLast? h
    exact (ne_of_isLower_or_isDigit (name.isLower_or_isDigit _ hm)).1 rfl
  · have hw : last.written = (' ' :: (last.name ++ '=' :: '"' :: last.value)) ++ ['"'] := by
      simp [Attribute.written]
    rw [tagInside, List.concat_eq_append, List.flatMap_append, List.flatMap_singleton, hw,
      ← List.append_assoc, ← List.append_assoc, List.getLast?_concat]
    decide

theorem ofInside_tagInside (name : TagName) (attributes : List Attribute) :
    Token.ofInside (tagInside name attributes) = .startTag name.text name.isVoid := by
  have hn := startTagName_tagInside name attributes [] (by simp)
  rw [List.append_nil] at hn
  simp [Token.ofInside, hn, getLast?_tagInside, TagName.isVoid]

theorem ofInside_tagInside_slash (name : TagName) (attributes : List Attribute) :
    Token.ofInside (tagInside name attributes ++ ['/']) = .startTag name.text true := by
  have hn := startTagName_tagInside name attributes ['/'] (by simp)
  simp [Token.ofInside, hn]

/-! ### Text -/

/-- A complete reference is resolved, and decoding goes on behind it. -/
theorem decode_reference (body : List Char) (h : ∀ c ∈ body, c ≠ ';' ∧ c ≠ '&') (s : List Char) :
    CharacterReference.decode ('&' :: (body ++ ';' :: s)) =
      CharacterReference.resolve body ++ CharacterReference.decode s := by
  have hb : ∀ read, CharacterReference.decodeFrom (some read) (body ++ ';' :: s) =
      CharacterReference.resolve (read.reverse ++ body) ++ CharacterReference.decode s := by
    induction body with
    | nil => intro read; simp [CharacterReference.decodeFrom, CharacterReference.decode]
    | cons c body ih =>
      intro read
      obtain ⟨h1, h2⟩ := h c (by simp)
      rw [List.cons_append, CharacterReference.decodeFrom, if_neg h1, if_neg h2,
        ih fun d hd => h d (by simp [hd])]
      simp
  simpa [CharacterReference.decode, CharacterReference.decodeFrom] using hb []

/-- A written character reads as the character, and as a whole. -/
theorem decode_escapedChar (c : Char) (s : List Char) :
    CharacterReference.decode (escapedChar c ++ s) = c :: CharacterReference.decode s := by
  rw [escapedChar]
  split
  · next h =>
    have hr : CharacterReference.resolve ['a', 'm', 'p'] = ['&'] := rfl
    simpa [h, hr] using decode_reference ['a', 'm', 'p'] (by simp) s
  split
  · next h =>
    have hr : CharacterReference.resolve ['l', 't'] = ['<'] := rfl
    simpa [h, hr] using decode_reference ['l', 't'] (by simp) s
  split
  · next h =>
    have hr : CharacterReference.resolve ['g', 't'] = ['>'] := rfl
    simpa [h, hr] using decode_reference ['g', 't'] (by simp) s
  · next h _ _ => exact CharacterReference.decode_cons_of_ne h s

theorem decode_escapedText (s : List Char) : CharacterReference.decode (escapedText s) = s := by
  induction s with
  | nil => rfl
  | cons c s ih => rw [escapedText, List.flatMap_cons, decode_escapedChar, ← escapedText, ih]

theorem lt_notMem_escapedText (s : List Char) : '<' ∉ escapedText s := by
  rw [escapedText, List.mem_flatMap]
  rintro ⟨c, -, hc⟩
  rw [escapedChar] at hc
  split at hc
  · exact absurd hc (by decide)
  split at hc
  · exact absurd hc (by decide)
  split at hc
  · exact absurd hc (by decide)
  · next h _ => exact h (List.mem_singleton.1 hc).symm

theorem allBlank_escapedText (s : List Char) : allBlank (escapedText s) = allBlank s := by
  induction s with
  | nil => rfl
  | cons c s ih =>
    have hc : allBlank (escapedChar c) = isBlank c := by
      rw [escapedChar]
      split
      · next h => subst h; decide
      split
      · next h => subst h; decide
      split
      · next h => subst h; decide
      · simp
    rw [escapedText, List.flatMap_cons, allBlank_append, hc, ← escapedText, ih, allBlank_cons]

/-! ### Reading what is written -/

theorem isTagLetter_initial (name : TagName) : isTagLetter name.initial = true :=
  Bool.or_eq_true_iff.2 (.inr name.isLower_initial)

/-- A start tag is read up to its own `>`. -/
theorem read_tagInside (name : TagName) (attributes : List Attribute) {slash : List Char}
    (hs : Token.Enclosed slash) (rest : List Char) :
    Token.read '<' (tagInside name attributes ++ slash ++ '>' :: rest) =
      .ok (Token.ofInside (tagInside name attributes ++ slash), rest) :=
  Token.read_startTag (isTagLetter_initial name) ((enclosed_tagInside name attributes).append hs)
    rest

theorem readFrom_startTag (size : Nat) (elements : List String) (name : TagName)
    (attributes : List Attribute) (rest : List Char) :
    readFrom size elements ('<' :: (tagInside name attributes ++ '>' :: rest)) =
      (readFrom size (if name.isVoid then elements else name.text :: elements) rest).after
        [.start name.text name.isVoid] := by
  have ht := read_tagInside name attributes Token.enclosed_nil rest
  rw [List.append_nil, ofInside_tagInside] at ht
  cases hv : name.isVoid <;> rw [hv] at ht <;> rw [readFrom_of_token ht rfl] <;> rfl

theorem readFrom_selfClosed (size : Nat) (elements : List String) (name : TagName)
    (attributes : List Attribute) (rest : List Char) :
    readFrom size elements ('<' :: (tagInside name attributes ++ '/' :: '>' :: rest)) =
      (readFrom size elements rest).after [.start name.text true] := by
  have hs : Token.Enclosed ['/'] := Token.enclosed_of_plain (by simp)
  have ht := read_tagInside name attributes hs rest
  rw [ofInside_tagInside_slash, List.append_assoc] at ht
  exact readFrom_of_token ht rfl

theorem readFrom_endTag (size : Nat) (elements : List String) (name : TagName)
    (rest : List Char) :
    readFrom size (name.text :: elements) ('<' :: '/' :: (name.chars ++ '>' :: rest)) =
      (readFrom size elements rest).after [.stop name.text] := by
  have ht := Token.read_endTag name.gt_notMem_chars rest
  rw [name.trim_chars, name.elementName_chars] at ht
  have he : Token.events (name.text :: elements) (.endTag name.text) =
      .ok ([.stop name.text], elements) := by
    simp [Token.events, closeThrough]
  rw [readFrom_of_token ht he]

theorem readFrom_text (size : Nat) (elements : List String) (content : List Char)
    {rest : List Char} (hr : ∀ d ∈ rest.head?, d = '<') :
    readFrom size elements (escapedText content ++ rest) =
      (readFrom size elements rest).after (Leaf.text content).events := by
  have hlt := lt_notMem_escapedText content
  have hd := decode_escapedText content
  have hb := allBlank_escapedText content
  cases he : escapedText content with
  | nil =>
    rw [he] at hb
    simp [Leaf.events, ← hb]
  | cons c s =>
    rw [he] at hlt hd hb
    obtain ⟨hc, hs⟩ := by simpa using hlt
    have ht := Token.read_run (Ne.symm hc) hs hr
    rw [hd, Token.ofRun, hb] at ht
    rw [List.cons_append]
    cases ha : allBlank content with
    | false =>
      rw [ha] at ht
      rw [readFrom_of_token ht rfl]
      simp [Leaf.events, ha]
    | true =>
      -- a blank run is skipped, and a blank text has no event
      rw [ha] at ht
      rw [readFrom_of_token ht rfl]
      simp [Leaf.events, ha]

theorem readFrom_leaf {node : Leaf} (size : Nat) (elements : List String) {rest : List Char}
    (hr : node.isText = true → ∀ d ∈ rest.head?, d = '<') :
    readFrom size elements (node.written ++ rest) =
      (readFrom size elements rest).after node.events := by
  cases node with
  | void name attributes h =>
    have hv := readFrom_startTag size elements name attributes rest
    rw [h] at hv
    simpa [Leaf.written, Leaf.events] using hv
  | selfClosed name attributes =>
    simpa [Leaf.written, Leaf.events] using readFrom_selfClosed size elements name attributes rest
  | comment content h =>
    have ht := Token.read_comment h rest
    have hw : (Leaf.comment content h).written ++ rest =
        '<' :: ("!--".toList ++ (content ++ commentEnd ++ rest)) := by
      simp [Leaf.written]
    rw [hw, readFrom_of_token ht rfl]
    rfl
  | text content => exact readFrom_text size elements content (hr rfl)

/-- What is written of a forest that does not start with a text starts with a tag or comment. -/
theorem head?_written {f : Forest} (hf : f.startsWithText = false) {rest : List Char}
    (hr : ∀ d ∈ rest.head?, d = '<') : ∀ d ∈ (f.written ++ rest).head?, d = '<' := by
  cases f with
  | nil => exact hr
  | leaf node following =>
    cases node with
    | text => cases hf
    | _ => simp [Forest.written, Leaf.written]
  | element => simp [Forest.written]

/-- Reading a written forest gives its events, among any open elements and before any rest that
does not go on with its last text. -/
theorem readFrom_written {f : Forest} (hs : f.separated = true) (size : Nat)
    (elements : List String) {rest : List Char} (hr : ∀ d ∈ rest.head?, d = '<') :
    readFrom size elements (f.written ++ rest) =
      (readFrom size elements rest).after f.events := by
  induction f generalizing elements rest with
  | nil => rfl
  | leaf node following ih =>
    obtain ⟨hn, hf⟩ : (node.isText = false ∨ following.startsWithText = false) ∧
        following.separated = true := by
      simpa [Forest.separated] using hs
    have hnext : node.isText = true → ∀ d ∈ (following.written ++ rest).head?, d = '<' :=
      fun ht => head?_written (hn.resolve_left (by simp [ht])) hr
    have hleaf := readFrom_leaf size elements hnext
    rw [Forest.written, List.append_assoc, hleaf, ih hf elements hr, Reading.after_after]
    rfl
  | element name attributes hv children following ihc ihf =>
    obtain ⟨hc, hf⟩ : children.separated = true ∧ following.separated = true := by
      simpa [Forest.separated] using hs
    -- the rest of the children is the end tag of the element
    have hend : ∀ d ∈ ('<' :: '/' :: (name.chars ++ '>' :: (following.written ++ rest))).head?,
        d = '<' := by simp
    have hstart := readFrom_startTag size elements name attributes (children.written ++
      '<' :: '/' :: (name.chars ++ '>' :: (following.written ++ rest)))
    rw [hv] at hstart
    calc readFrom size elements
          ((Forest.element name attributes hv children following).written ++ rest)
      _ = readFrom size elements ('<' :: (tagInside name attributes ++ '>' :: (children.written ++
            '<' :: '/' :: (name.chars ++ '>' :: (following.written ++ rest))))) := by
          simp [Forest.written]
      _ = (readFrom size (name.text :: elements) (children.written ++
            '<' :: '/' :: (name.chars ++ '>' :: (following.written ++ rest)))).after
            [.start name.text false] := hstart
      _ = (readFrom size elements (following.written ++ rest)).after
            (.start name.text false :: (children.events ++ [.stop name.text])) := by
          rw [ihc hc (name.text :: elements) hend, readFrom_endTag]
          simp
      _ = (readFrom size elements rest).after
            (Forest.element name attributes hv children following).events := by
          rw [ihf hf elements hr]
          simp [Forest.events]

/-- The name of the root element. -/
def rootName : TagName := ⟨'h', ['t', 'm', 'l'], by decide, by simp⟩

/-- The wrapped form of a written forest is that of the root element around it. -/
theorem toList_wrap_written (f : Forest) :
    (wrap (String.ofList f.written)).toList =
      (Forest.element rootName [] (by decide) f .nil).written := by
  simp [wrap, rootElement, Forest.written, tagInside, TagName.chars, rootName]

/-- Reading a written forest inside the root element. -/
theorem readFrom_rootElement {f : Forest} (hs : f.separated = true) (size : Nat) :
    readFrom size [] (Forest.element rootName [] (by decide) f .nil).written =
      ⟨.start rootElement false :: (f.events ++ [.stop rootElement]), none⟩ := by
  have hroot : (Forest.element rootName [] (by decide) f .nil).separated = true := by
    simpa [Forest.separated] using hs
  have hname : rootName.text = rootElement := rfl
  have hnil : ∀ d ∈ ([] : List Char).head?, d = '<' := by simp
  have h := readFrom_written hroot size [] hnil
  rw [List.append_nil, readFrom_nil] at h
  rw [h]
  simp [Reading.after, Forest.events, hname]

/-- An empty fragment has nothing but the root element. -/
theorem read_empty : read "" = ⟨[.start rootElement false, .stop rootElement], none⟩ := by
  have hempty : "" = String.ofList Forest.nil.written := rfl
  rw [hempty, read, toList_wrap_written]
  exact readFrom_rootElement (f := .nil) rfl _

/-- Reading undoes writing: a forest without neighbouring texts, written as a fragment, is read
without a fault, and its events are those of the forest inside the root element. -/
theorem read_written (f : Forest) (hs : f.separated = true) :
    read (String.ofList f.written) =
      ⟨.start rootElement false :: (f.events ++ [.stop rootElement]), none⟩ := by
  rw [read, toList_wrap_written]
  exact readFrom_rootElement hs _

/-- Markup in which a name comes back inside itself, a quoted value holds the ends of tags and
texts stand between all kinds of leaves. -/
def knottyForest : Forest :=
  .element rootName [⟨['a'], ['x', '>', '/', '\''], by simp, by simp⟩] (by decide)
    (.leaf (.text ['<', ' ', '&', '>'])
      (.leaf (.void ⟨'b', ['r'], by decide, by simp⟩ [] (by decide))
        (.leaf (.text [' ', '\n'])
          (.element rootName [] (by decide) (.leaf (.comment ['-', '>'] (by decide)) .nil)
            (.leaf (.selfClosed ⟨'h', ['1'], by decide, by simp⟩ []) .nil)))))
    (.leaf (.text ['z']) .nil)

theorem read_written_knottyForest :
    knottyForest.separated = true ∧
      String.ofList knottyForest.written =
        "<html a=\"x>/'\">&lt; &amp;&gt;<br> \n<html><!--->--></html><h1/></html>z" ∧
      read (String.ofList knottyForest.written) =
        ⟨[.start "html" false, .start "html" false, .text "< &>", .start "br" true,
          .start "html" false, .stop "html", .start "h1" true, .stop "html", .text "z",
          .stop "html"], none⟩ :=
  ⟨by decide, by decide, read_written knottyForest (by decide)⟩

end ApiStubs.Fragment
