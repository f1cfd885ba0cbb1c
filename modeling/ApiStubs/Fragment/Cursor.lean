import ApiStubs.Fragment.Reader

/-!
# Reading a description fragment one item at a time

The events of a fragment need not be held all at once: a cursor stands somewhere in the wrapped
fragment, knows the open elements, and hands out one event after another. What an end tag closes
waits in a queue and is handed out before anything more is read.

* `Cursor`: a place in a fragment, with the open elements and the waiting events;
* `Cursor.pass`: one pass, which may hand out an event, fail, or find that all is done;
* `Cursor.Reaches`: the events handed out on the way from the start of a fragment to a cursor.
-/

namespace ApiStubs.Fragment

/-- A place in a wrapped fragment that is being read. -/
structure Cursor where
  /-- The number of bytes of the whole source. -/
  size : Nat
  /-- What is still to be read. -/
  rest : List Char
  /-- The open elements, innermost first. -/
  elements : List String := []
  /-- Events that are handed out before anything more is read. -/
  pending : List Event := []
  /-- Nothing more is read: the source has ended or there was a fault. -/
  finished : Bool := false

/-- What comes of one pass. -/
inductive Pass where
  /-- Nothing is left to hand out. -/
  | ended
  /-- The fragment cannot be read on. -/
  | failed (fault : Fault) (next : Cursor)
  /-- The cursor went on, and handed out an event or none. -/
  | went (event : Option Event) (next : Cursor)

namespace Cursor

/-- The cursor before the wrapped fragment. -/
def start (fragment : String) : Cursor :=
  { size := byteLength (wrap fragment).toList, rest := (wrap fragment).toList }

/-- The byte offset of the cursor in its source. -/
def offset (c : Cursor) : Nat := c.size - byteLength c.rest

/-- One pass: a waiting event is handed out, the end of the source closes all open elements, or a
token is read. -/
def pass (c : Cursor) : Pass :=
  match c.pending with
  | event :: pending => .went (some event) { c with pending }
  | [] =>
    if c.finished then .ended
    else
      match c.rest with
      | [] =>
        .went none { c with elements := [], pending := c.elements.map .stop, finished := true }
      | a :: s =>
        match Token.read a s with
        | .error unterminated =>
          .failed (unterminated.fault c.offset) { c with finished := true }
        | .ok (token, rest) =>
          match token.events c.elements with
          | .error name =>
            .failed (.unexpectedEndTag name c.offset) { c with rest, finished := true }
          | .ok (events, elements) =>
            .went events.head? { c with rest, elements, pending := events.tail }

/-- The cursor is reached from the start of the fragment when these events have been handed out. -/
inductive Reaches (fragment : String) : List Event → Cursor → Prop
  | start : Reaches fragment [] (start fragment)
  | went {delivered : List Event} {c c' : Cursor} {event : Option Event}
      (h : Reaches fragment delivered c) (hp : c.pass = .went event c') :
      Reaches fragment (delivered ++ event.toList) c'

/-! ### The ways a cursor goes on -/

/-- How a pass that does not fail changes a cursor. -/
inductive Goes (c : Cursor) : Option Event → Cursor → Prop
  /-- A waiting event is handed out. -/
  | handOut {event : Event} {pending : List Event} (hp : c.pending = event :: pending) :
      Goes c (some event) { c with pending }
  /-- The end of the source closes all open elements. -/
  | close (hp : c.pending = []) (hf : c.finished = false) (hr : c.rest = []) :
      Goes c none { c with elements := [], pending := c.elements.map .stop, finished := true }
  /-- A token is read that has its place among the open elements. -/
  | token {a : Char} {s rest : List Char} {token : Token} {events : List Event}
      {elements : List String} (hp : c.pending = []) (hf : c.finished = false)
      (hr : c.rest = a :: s) (ht : Token.read a s = .ok (token, rest))
      (he : token.events c.elements = .ok (events, elements)) :
      Goes c events.head? { c with rest, elements, pending := events.tail }

theorem goes_of_pass {c c' : Cursor} {event : Option Event} (h : c.pass = .went event c') :
    c.Goes event c' := by
  rw [pass] at h
  split at h
  · next e pending hp =>
    obtain ⟨rfl, rfl⟩ := by simpa using h
    exact .handOut hp
  next hp =>
  split at h
  · cases h
  next hf =>
  have hf : c.finished = false := by simpa using hf
  split at h
  · next hr =>
    obtain ⟨rfl, rfl⟩ := by simpa using h
    exact .close hp hf hr
  next a s hr =>
  split at h
  · cases h
  next token rest ht =>
  split at h
  · cases h
  next events elements he =>
  obtain ⟨rfl, rfl⟩ := by simpa using h
  exact .token hp hf hr ht he

theorem pass_of_goes {c c' : Cursor} {event : Option Event} (h : c.Goes event c') :
    c.pass = .went event c' := by
  cases h with
  | handOut hp => simp [pass, hp]
  | close hp hf hr => simp [pass, hp, hf, hr]
  | token hp hf hr ht he => simp [pass, hp, hf, hr, ht, he]

/-- How a pass that fails leaves a cursor. -/
inductive Fails (c : Cursor) : Fault → Cursor → Prop
  /-- What begins at the cursor does not end. -/
  | unterminated {a : Char} {s : List Char} {u : Token.Unterminated} (hp : c.pending = [])
      (hf : c.finished = false) (hr : c.rest = a :: s) (ht : Token.read a s = .error u) :
      Fails c (u.fault c.offset) { c with finished := true }
  /-- An end tag is read that matches no open element. -/
  | unexpected {a : Char} {s rest : List Char} {token : Token} {name : String}
      (hp : c.pending = []) (hf : c.finished = false) (hr : c.rest = a :: s)
      (ht : Token.read a s = .ok (token, rest)) (he : token.events c.elements = .error name) :
      Fails c (.unexpectedEndTag name c.offset) { c with rest, finished := true }

theorem fails_of_pass {c c' : Cursor} {fault : Fault} (h : c.pass = .failed fault c') :
    c.Fails fault c' := by
  rw [pass] at h
  split at h
  · cases h
  next hp =>
  split at h
  · cases h
  next hf =>
  have hf : c.finished = false := by simpa using hf
  split at h
  · cases h
  next a s hr =>
  split at h
  · next u ht =>
    obtain ⟨rfl, rfl⟩ := by simpa using h
    exact .unterminated hp hf hr ht
  next token rest ht =>
  split at h
  · next name he =>
    obtain ⟨rfl, rfl⟩ := by simpa using h
    exact .unexpected hp hf hr ht he
  · cases h

/-- A pass with nothing left to hand out. -/
theorem pass_eq_ended_iff {c : Cursor} : c.pass = .ended ↔ c.pending = [] ∧ c.finished = true := by
  constructor
  · intro h
    rw [pass] at h
    split at h
    · cases h
    next hp =>
    split at h
    · next hf => exact ⟨hp, hf⟩
    · split at h
      · cases h
      · split at h
        · cases h
        · split at h <;> cases h
  · rintro ⟨hp, hf⟩
    simp [pass, hp, hf]

end Cursor

end ApiStubs.Fragment
