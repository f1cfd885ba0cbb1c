import ApiStubs.Fragment.Event
import ApiStubs.Fragment.Token

/-!
# Reading a description fragment

A fragment is wrapped in a synthetic root element and read token by token. Elements left open are
closed by the end tag of an element around them, or by the end of the text; an end tag of an
element that is not open is a fault.

* `wrap`, `rootElement`: the fragment inside its root;
* `closeThrough`: what an end tag closes, innermost first;
* `Token.events`: the events of a token among the open elements;
* `readFrom`, `read`: the events of a text, and of a fragment.
-/

namespace ApiStubs.Fragment

/-- The element around every fragment. -/
def rootElement : String := "html"

/-- The fragment inside the root element. -/
def wrap (fragment : String) : String :=
  "<" ++ rootElement ++ ">" ++ fragment ++ "</" ++ rootElement ++ ">"

/-- The number of bytes of a text in UTF-8. -/
def byteLength : List Char → Nat
  | [] => 0
  | c :: s => c.utf8Size + byteLength s

@[simp] theorem byteLength_nil : byteLength [] = 0 := rfl

@[simp] theorem byteLength_cons (c : Char) (s : List Char) :
    byteLength (c :: s) = c.utf8Size + byteLength s := rfl

@[simp] theorem byteLength_append (s t : List Char) :
    byteLength (s ++ t) = byteLength s + byteLength t := by
  induction s with
  | nil => simp
  | cons c s ih => simp [ih, Nat.add_assoc]

/-- The open elements that the end tag of `name` closes, and those it leaves open. Both are listed
innermost first. -/
def closeThrough (name : String) : List String → Option (List String × List String)
  | [] => none
  | e :: outer =>
    if e = name then some ([e], outer)
    else (closeThrough name outer).map fun cut => (e :: cut.1, cut.2)

/-- An end tag closes the innermost elements, the last of which is its own and the first such. -/
theorem closeThrough_eq_some_iff {name : String} {elements closed left : List String} :
    closeThrough name elements = some (closed, left) ↔
      ∃ inner, closed = inner ++ [name] ∧ name ∉ inner ∧ elements = inner ++ name :: left := by
  induction elements generalizing closed with
  | nil => simp [closeThrough]
  | cons e outer ih =>
    rw [closeThrough]
    split
    · next he =>
      subst he
      constructor
      · intro h
        obtain ⟨rfl, rfl⟩ := by simpa using h
        exact ⟨[], by simp⟩
      · rintro ⟨inner, rfl, hn, h⟩
        cases inner with
        | nil => simp_all
        | cons i inner => simp_all
    · next he =>
      simp only [Option.map_eq_some_iff, Prod.exists, Prod.mk.injEq]
      constructor
      · rintro ⟨cl, op, h, rfl, rfl⟩
        obtain ⟨inner, rfl, hn, rfl⟩ := ih.1 h
        exact ⟨e :: inner, by simp, by simp [hn, Ne.symm he], by simp⟩
      · rintro ⟨inner, rfl, hn, h⟩
        cases inner with
        | nil => simp_all
        | cons i inner =>
          obtain ⟨rfl, rfl⟩ := by simpa using h
          exact ⟨inner ++ [name], left, ih.2 ⟨inner, rfl, by simp_all, rfl⟩, by simp, rfl⟩

/-- The events of a token and the elements open after it. Fails with the name of an end tag that
matches none of them. -/
def Token.events (elements : List String) : Token → Except String (List Event × List String)
  | .startTag name true => .ok ([.start name true], elements)
  | .startTag name false => .ok ([.start name false], name :: elements)
  | .endTag name =>
    match closeThrough name elements with
    | some (closed, left) => .ok (closed.map .stop, left)
    | none => .error name
  | .text content => .ok ([.text content], elements)
  | .skipped => .ok ([], elements)

/-- The fault of a token that does not end. -/
def Token.Unterminated.fault (offset : Nat) : Token.Unterminated → Fault
  | .tag => .unterminatedTag offset
  | .comment => .unterminatedComment offset

/-- The events of a text among open elements, innermost first. Offsets count from the start of a
source of `size` bytes of which the text is the end. -/
def readFrom (size : Nat) (elements : List String) : List Char → Reading
  | [] => ⟨elements.map .stop, none⟩
  | c :: s =>
    let offset := size - byteLength (c :: s)
    match _ : Token.read c s with
    | .error unterminated => ⟨[], some (unterminated.fault offset)⟩
    | .ok (token, rest) =>
      match token.events elements with
      | .error name => ⟨[], some (.unexpectedEndTag name offset)⟩
      | .ok (events, elements) => (readFrom size elements rest).after events
termination_by s => s.length
decreasing_by
  have := Token.length_le_of_read ‹Token.read c s = _›
  simp only [List.length_cons]
  omega

@[simp] theorem readFrom_nil (size : Nat) (elements : List String) :
    readFrom size elements [] = ⟨elements.map .stop, none⟩ := by
  rw [readFrom]

theorem readFrom_of_unterminated {size : Nat} {elements : List String} {c : Char} {s : List Char}
    {u : Token.Unterminated} (ht : Token.read c s = .error u) :
    readFrom size elements (c :: s) = ⟨[], some (u.fault (size - byteLength (c :: s)))⟩ := by
  rw [readFrom]
  split
  · next h => rw [ht] at h; cases h; rfl
  · next h => rw [ht] at h; cases h

theorem readFrom_of_unexpected {size : Nat} {elements : List String} {c : Char} {s rest : List Char}
    {token : Token} {name : String} (ht : Token.read c s = .ok (token, rest))
    (he : token.events elements = .error name) :
    readFrom size elements (c :: s) =
      ⟨[], some (.unexpectedEndTag name (size - byteLength (c :: s)))⟩ := by
  rw [readFrom]
  split
  · next h => rw [ht] at h; cases h
  · next h => rw [ht] at h; cases h; simp [he]

theorem readFrom_of_token {size : Nat} {elements left : List String} {c : Char}
    {s rest : List Char} {token : Token} {events : List Event}
    (ht : Token.read c s = .ok (token, rest)) (he : token.events elements = .ok (events, left)) :
    readFrom size elements (c :: s) = (readFrom size left rest).after events := by
  rw [readFrom]
  split
  · next h => rw [ht] at h; cases h
  · next h => rw [ht] at h; cases h; simp [he]

/-- The events of a fragment inside its root element. -/
def read (fragment : String) : Reading :=
  readFrom (byteLength (wrap fragment).toList) [] (wrap fragment).toList

end ApiStubs.Fragment
