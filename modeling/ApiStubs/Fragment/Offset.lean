import ApiStubs.Fragment.Reader

/-!
# Reading a description fragment by byte offsets

A reader that keeps its source whole knows its place as a number of bytes, and cuts what it needs
out of the source. A cut goes between two characters or it fails, so everything here may fail.

* `splitBytes?`, `dropBytes?`, `slice?`: a text cut at byte offsets;
* `offsetOf?`, `tagStop?`: the offsets of a pattern and of the end of a tag;
* `OffsetReader`: a source with a place in it, the open elements and the waiting events;
* `OffsetReader.pass`: one pass, which gives something back or has another pass follow;
* `OffsetReader.next`, `OffsetReader.calls`: passes up to the next item, and several items.
-/

namespace ApiStubs.Fragment

open Text

/-! ### Offsets in a text -/

/-- The first `n` bytes of a text and what follows them, if a character ends there. -/
def splitBytes? : Nat → List Char → Option (List Char × List Char)
  | n, [] => if n = 0 then some ([], []) else none
  | n, c :: s =>
    if n = 0 then some ([], c :: s)
    else if n < c.utf8Size then none
    else (splitBytes? (n - c.utf8Size) s).map fun cut => (c :: cut.1, cut.2)

/-- What follows the first `n` bytes. -/
def dropBytes? (n : Nat) (s : List Char) : Option (List Char) := (splitBytes? n s).map Prod.snd

/-- What stands between two offsets. -/
def slice? (start stop : Nat) (s : List Char) : Option (List Char) :=
  if start ≤ stop then
    (dropBytes? start s).bind fun rest => (splitBytes? (stop - start) rest).map Prod.fst
  else none

/-- The offset of the first occurrence of the pattern. -/
def offsetOf? (pattern s : List Char) : Option Nat :=
  (splitFirst? pattern s).map fun cut => byteLength cut.1

/-- The offset of the `>` that ends a tag, in a text at the offset `i`, given the quote the text
stands in. -/
def tagStop? : Option Char → Nat → List Char → Option Nat
  | _, _, [] => none
  | some quote, i, c :: s => tagStop? (if c = quote then none else some quote) (i + c.utf8Size) s
  | none, i, c :: s =>
    if c = '>' then some i
    else tagStop? (if c = '"' ∨ c = '\'' then some c else none) (i + c.utf8Size) s

/-- A cut gives the text back, and its place is the number of bytes before it. -/
theorem splitBytes?_eq_some_iff {n : Nat} {s front rest : List Char} :
    splitBytes? n s = some (front, rest) ↔ s = front ++ rest ∧ n = byteLength front := by
  induction s generalizing n front with
  | nil =>
    rw [splitBytes?]
    constructor
    · intro h
      split at h
      · next hn =>
        obtain ⟨rfl, rfl⟩ := Prod.mk.inj (Option.some.inj h)
        exact ⟨rfl, hn⟩
      · cases h
    · rintro ⟨hs, rfl⟩
      obtain ⟨rfl, rfl⟩ := List.append_eq_nil_iff.1 hs.symm
      rfl
  | cons c s ih =>
    have hpos := c.utf8Size_pos
    rw [splitBytes?]
    constructor
    · intro h
      split at h
      · next hn =>
        obtain ⟨rfl, rfl⟩ := Prod.mk.inj (Option.some.inj h)
        exact ⟨rfl, hn⟩
      split at h
      · cases h
      · next hc =>
        obtain ⟨⟨before, after⟩, hcut, he⟩ := Option.map_eq_some_iff.1 h
        obtain ⟨rfl, rfl⟩ := Prod.mk.inj he
        obtain ⟨rfl, hn⟩ := ih.1 hcut
        exact ⟨rfl, by rw [byteLength_cons, ← hn]; omega⟩
    · rintro ⟨hs, rfl⟩
      cases front with
      | nil => rw [byteLength_nil, if_pos rfl, hs, List.nil_append]
      | cons d front =>
        obtain ⟨rfl, htail⟩ := List.cons.inj hs
        have hcut : splitBytes? (byteLength front) s = some (front, rest) := ih.2 ⟨htail, rfl⟩
        rw [byteLength_cons, if_neg (by omega), if_neg (by omega), Nat.add_sub_cancel_left, hcut]
        rfl

@[simp] theorem splitBytes?_append (front rest : List Char) :
    splitBytes? (byteLength front) (front ++ rest) = some (front, rest) :=
  splitBytes?_eq_some_iff.2 ⟨rfl, rfl⟩

@[simp] theorem dropBytes?_append (front rest : List Char) :
    dropBytes? (byteLength front) (front ++ rest) = some rest := by
  rw [dropBytes?, splitBytes?_append, Option.map_some]

/-- The slice between two places. -/
theorem slice?_append (front inside rest : List Char) :
    slice? (byteLength front) (byteLength (front ++ inside)) (front ++ (inside ++ rest)) =
      some inside := by
  rw [slice?, byteLength_append, if_pos (Nat.le_add_right ..), dropBytes?_append,
    Nat.add_sub_cancel_left, Option.bind_some, splitBytes?_append, Option.map_some]

theorem tagStop?_eq (quote : Option Char) (i : Nat) (s : List Char) :
    tagStop? quote i s =
      (Token.tagInside? quote s).map fun cut => i + byteLength cut.1 := by
  induction s generalizing quote i with
  | nil => rw [tagStop?, Token.tagInside?, Option.map_none]
  | cons c s ih =>
    cases quote with
    | some q =>
      rw [tagStop?, Token.tagInside?, ih, Option.map_map]
      simp [Function.comp_def, Nat.add_assoc]
    | none =>
      rw [tagStop?, Token.tagInside?]
      split
      · rfl
      · rw [ih, Option.map_map]
        simp [Function.comp_def, Nat.add_assoc]

/-! ### The reader -/

/-- An event, or the fault behind which there are no more. -/
abbrev Item := Except Fault Event

/-- A wrapped fragment that is being read. -/
structure OffsetReader where
  source : List Char
  /-- The number of bytes that have been read. -/
  position : Nat := 0
  /-- The open elements, innermost first. -/
  elements : List String := []
  /-- Events that are handed out before anything more is read. -/
  pending : List Event := []
  /-- Nothing more is read: the source has ended or there was a fault. -/
  finished : Bool := false

/-- What comes of one pass. -/
inductive OffsetReader.Step where
  /-- An item is handed out, or there is none any more. -/
  | gave (item : Option Item) (next : OffsetReader)
  /-- There is nothing to hand out yet. -/
  | again (next : OffsetReader)

namespace OffsetReader

/-- The reader after a step. -/
def Step.next : Step → OffsetReader
  | .gave _ next | .again next => next

/-- The reader before the wrapped fragment. -/
def start (fragment : String) : OffsetReader := { source := (wrap fragment).toList }

/-- What is still to be read. -/
def rest? (r : OffsetReader) : Option (List Char) := dropBytes? r.position r.source

/-- Reports a fault, and reads nothing more. -/
def fail (r : OffsetReader) (fault : Fault) : Step :=
  .gave (some (.error fault)) { r with finished := true }

/-- Hands out the text of a run, unless the run is blank. -/
def giveText (r : OffsetReader) (run content : List Char) : Step :=
  if allBlank run then .again r else .gave (some (.ok (.text (String.ofList content)))) r

/-! ### Tokens at the place of the reader -/

/-- A comment, behind its four characters `<!--`. -/
def readComment (r : OffsetReader) (rest : List Char) : Option Step := do
  let body ← dropBytes? 4 rest
  match offsetOf? "-->".toList body with
  | some i => return .again { r with position := r.position + 4 + i + 3 }
  | none => return r.fail (.unterminatedComment r.position)

/-- A character data section with the text behind its nine characters `<![CDATA[`. -/
def readData (r : OffsetReader) (body : List Char) : Option Step := do
  match offsetOf? "]]>".toList body with
  | some i =>
    let run ← slice? 0 i body
    return giveText { r with position := r.position + 9 + i + 3 } run run
  | none => return r.fail (.unterminatedTag r.position)

/-- A declaration, up to the next `>`. -/
def readDeclaration (r : OffsetReader) (rest : List Char) : Step :=
  match offsetOf? ['>'] rest with
  | some i => .again { r with position := r.position + i + 1 }
  | none => r.fail (.unterminatedTag r.position)

/-- An end tag. The elements that it closes wait to be handed out. -/
def readEndTag (r : OffsetReader) (rest : List Char) : Option Step := do
  match offsetOf? ['>'] rest with
  | some i =>
    let stop := r.position + i
    let inside ← slice? (r.position + 2) stop r.source
    let name := elementName (trim inside)
    let behind := { r with position := stop + 1 }
    match closeThrough name r.elements with
    | some (closed, elements) =>
      let pending := r.pending ++ closed.map .stop
      return .gave (pending.head?.map .ok) { behind with elements, pending := pending.tail }
    | none => return behind.fail (.unexpectedEndTag name r.position)
  | none => return r.fail (.unterminatedTag r.position)

/-- The offset of the `>` that ends the start tag. -/
def tagEnd? (r : OffsetReader) : List Char → Option Nat
  | [] => none
  | c :: s => (tagStop? none c.utf8Size s).map (r.position + ·)

/-- A start tag. -/
def readStartTag (r : OffsetReader) (rest : List Char) : Option Step := do
  match r.tagEnd? rest with
  | some stop =>
    let inside ← slice? (r.position + 1) stop r.source
    let name := Token.startTagName inside
    let selfClosing := inside.getLast? == some '/' || voidElements.contains name
    let elements := if selfClosing then r.elements else name :: r.elements
    return .gave (some (.ok (.start name selfClosing))) { r with position := stop + 1, elements }
  | none => return r.fail (.unterminatedTag r.position)

/-- Text from a first character, which may be anything, up to the next `<` or to the end. -/
def readRun (r : OffsetReader) (rest : List Char) : Option Step := do
  let first := (rest.head?.map Char.utf8Size).getD 1
  let behind ← dropBytes? (r.position + first) r.source
  let stop :=
    ((offsetOf? ['<'] behind).map (r.position + first + ·)).getD (byteLength r.source)
  let run ← slice? r.position stop r.source
  return giveText { r with position := stop } run (CharacterReference.decode run)

/-- A letter follows the `<` that the text starts with. -/
def opensTag? (rest : List Char) : Option Bool :=
  if ['<'].isPrefixOf rest then (dropBytes? 1 rest).map fun s => s.head?.any isTagLetter
  else some false

/-- What is no comment and no character data section. -/
def readTag (r : OffsetReader) (rest : List Char) : Option Step := do
  if "<!".toList.isPrefixOf rest ∨ "<?".toList.isPrefixOf rest then return r.readDeclaration rest
  else if "</".toList.isPrefixOf rest then r.readEndTag rest
  else if ← opensTag? rest then r.readStartTag rest
  else r.readRun rest

/-- The token at the place of the reader. -/
def readToken (r : OffsetReader) : Option Step := do
  let rest ← r.rest?
  if "<!--".toList.isPrefixOf rest then r.readComment rest
  else
    match stripPrefix? "<![CDATA[".toList rest with
    | some body => r.readData body
    | none => r.readTag rest

/-- One pass: a waiting event is handed out, the end of the source closes all open elements, or a
token is read. -/
def pass (r : OffsetReader) : Option Step :=
  match r.pending with
  | event :: pending => some (.gave (some (.ok event)) { r with pending })
  | [] =>
    if r.finished then some (.gave none r)
    else if byteLength r.source ≤ r.position then
      some (.again { r with elements := [], pending := r.elements.map .stop, finished := true })
    else r.readToken

/-! ### The way to the next item -/

/-- The later reader has read more of the same source. -/
structure Forward (r later : OffsetReader) : Prop where
  source_eq : later.source = r.source
  finished_eq : later.finished = r.finished
  position_lt : r.position < later.position

section

variable {r later : OffsetReader} {rest : List Char} {position : Nat}

theorem forward_position (h : r.position < position) : r.Forward { r with position } :=
  ⟨rfl, rfl, h⟩

theorem forward_giveText {run content : List Char} (h : r.position < position)
    (hs : giveText { r with position } run content = .again later) : r.Forward later := by
  rw [giveText] at hs
  split at hs
  · obtain rfl := Step.again.inj hs
    exact forward_position h
  · cases hs

theorem forward_readComment (h : r.readComment rest = some (.again later)) : r.Forward later := by
  obtain ⟨body, -, h⟩ := Option.bind_eq_some_iff.1 h
  split at h
  · obtain rfl := Step.again.inj (Option.some.inj h)
    exact forward_position (by omega)
  · cases h

theorem forward_readData (h : r.readData rest = some (.again later)) : r.Forward later := by
  rw [readData] at h
  split at h
  · obtain ⟨run, -, h⟩ := Option.bind_eq_some_iff.1 h
    exact forward_giveText (by omega) (Option.some.inj h)
  · cases h

theorem forward_readDeclaration (h : r.readDeclaration rest = .again later) : r.Forward later := by
  rw [readDeclaration] at h
  split at h
  · obtain rfl := Step.again.inj h
    exact forward_position (by omega)
  · cases h

theorem readEndTag_ne_again : r.readEndTag rest ≠ some (.again later) := by
  intro h
  rw [readEndTag] at h
  split at h
  · obtain ⟨inside, -, h⟩ := Option.bind_eq_some_iff.1 h
    dsimp only at h
    split at h <;> cases h
  · cases h

theorem readStartTag_ne_again : r.readStartTag rest ≠ some (.again later) := by
  intro h
  rw [readStartTag] at h
  split at h
  · obtain ⟨inside, -, h⟩ := Option.bind_eq_some_iff.1 h
    cases h
  · cases h

theorem forward_readRun (hlt : r.position < byteLength r.source)
    (h : r.readRun rest = some (.again later)) : r.Forward later := by
  obtain ⟨behind, -, h⟩ := Option.bind_eq_some_iff.1 h
  obtain ⟨run, -, h⟩ := Option.bind_eq_some_iff.1 h
  refine forward_giveText ?_ (Option.some.inj h)
  -- the run has its first character, or goes up to the end of the source
  cases offsetOf? ['<'] behind with
  | none => exact hlt
  | some i =>
    have hfirst : 0 < (rest.head?.map Char.utf8Size).getD 1 := by
      cases rest with
      | nil => exact Nat.one_pos
      | cons c rest => exact c.utf8Size_pos
    show r.position < r.position + _ + i
    omega

theorem forward_readTag (hlt : r.position < byteLength r.source)
    (h : r.readTag rest = some (.again later)) : r.Forward later := by
  rw [readTag] at h
  split at h
  · exact forward_readDeclaration (Option.some.inj h)
  split at h
  · exact absurd h readEndTag_ne_again
  obtain ⟨opens, -, h⟩ := Option.bind_eq_some_iff.1 h
  split at h
  · exact absurd h readStartTag_ne_again
  · exact forward_readRun hlt h

theorem forward_readToken (hlt : r.position < byteLength r.source)
    (h : r.readToken = some (.again later)) : r.Forward later := by
  obtain ⟨rest, -, h⟩ := Option.bind_eq_some_iff.1 h
  split at h
  · exact forward_readComment h
  split at h
  · exact forward_readData h
  · exact forward_readTag hlt h

/-- A pass with nothing to hand out has read something, or has come to the end of the source. -/
theorem forward_or_closed_of_pass (h : r.pass = some (.again later)) :
    r.position < byteLength r.source ∧ r.Forward later ∨
      byteLength r.source ≤ r.position ∧ r.finished = false ∧
        later = { r with elements := [], pending := r.elements.map .stop, finished := true } := by
  rw [pass] at h
  split at h
  · cases h
  split at h
  · cases h
  next hf =>
  split at h
  · next hend =>
    obtain rfl := Step.again.inj (Option.some.inj h)
    exact .inr ⟨hend, by simpa using hf, rfl⟩
  · next hlt =>
    have hlt := Nat.lt_of_not_le hlt
    exact .inl ⟨hlt, forward_readToken hlt h⟩

/-- What is left to read, with the closing of the elements at the end. -/
def left (r : OffsetReader) : Nat :=
  byteLength r.source - r.position + if r.finished then 0 else 1

theorem left_lt_of_pass (h : r.pass = some (.again later)) : later.left < r.left := by
  rcases forward_or_closed_of_pass h with ⟨hlt, hs, hf, hp⟩ | ⟨-, hf, rfl⟩
  · rw [left, left, hs, hf]
    omega
  · rw [left, left, hf]
    exact Nat.lt_succ_self _

end

/-- Passes up to the next item. -/
def next (r : OffsetReader) : Option (Option Item × OffsetReader) :=
  match _ : r.pass with
  | some (.gave item later) => some (item, later)
  | some (.again later) => later.next
  | none => none
termination_by r.left
decreasing_by exact left_lt_of_pass ‹_›

/-- What a number of calls hand out, one after the other. -/
def calls : Nat → OffsetReader → Option (List (Option Item))
  | 0, _ => some []
  | n + 1, r => do
    let (item, later) ← r.next
    return item :: (← later.calls n)

variable {r later : OffsetReader} {item : Option Item}

theorem next_of_gave (h : r.pass = some (.gave item later)) : r.next = some (item, later) := by
  rw [next]
  split
  · next h' =>
    obtain ⟨rfl, rfl⟩ := Step.gave.inj (Option.some.inj (h.symm.trans h'))
    rfl
  · next h' => cases h.symm.trans h'
  · next h' => cases h.symm.trans h'

theorem next_of_again (h : r.pass = some (.again later)) : r.next = later.next := by
  rw [next]
  split
  · next h' => cases h.symm.trans h'
  · next h' =>
    obtain rfl := Step.again.inj (Option.some.inj (h.symm.trans h'))
    rfl
  · next h' => cases h.symm.trans h'

theorem calls_succ (h : r.next = some (item, later)) (n : Nat) :
    r.calls (n + 1) = (later.calls n).map (item :: ·) := by
  rw [calls, h]
  cases hn : later.calls n <;> simp [hn]

end OffsetReader

end ApiStubs.Fragment
