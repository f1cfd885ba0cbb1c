import ApiStubs.Fragment.Cursor

/-!
# A cursor hands out the events of its fragment

* `Token.Leaves`: what a token does to the open elements;
* `Cursor.reading`: what a cursor has still to hand out;
* `Reaches.read_eq`: what was handed out and what is still to come make up the reading of the
  fragment;
* `exists_reaches_read`: all events of the reading are handed out, and after them the cursor has
  ended or fails with the fault of the reading.
-/

namespace ApiStubs.Fragment

/-! ### What a token does -/

/-- The events of a token, and the elements that it leaves open. -/
inductive Token.Leaves (elements : List String) : Token → List Event → List String → Prop
  | opened (name : String) :
      Leaves elements (.startTag name false) [.start name false] (name :: elements)
  | selfClosed (name : String) : Leaves elements (.startTag name true) [.start name true] elements
  /-- An end tag closes the elements down to the first of its name. -/
  | closed {name : String} {inner left : List String} (he : elements = inner ++ name :: left)
      (hn : name ∉ inner) : Leaves elements (.endTag name) ((inner ++ [name]).map .stop) left
  | text (content : String) : Leaves elements (.text content) [.text content] elements
  | skipped : Leaves elements .skipped [] elements

theorem Token.leaves_of_events {token : Token} {elements left : List String} {es : List Event}
    (h : token.events elements = .ok (es, left)) : token.Leaves elements es left := by
  cases token with
  | startTag name selfClosing =>
    cases selfClosing <;> obtain ⟨rfl, rfl⟩ := by simpa [Token.events] using h
    · exact .opened name
    · exact .selfClosed name
  | endTag name =>
    rw [Token.events] at h
    split at h
    · next closed left' hc =>
      obtain ⟨rfl, rfl⟩ := by simpa using h
      obtain ⟨inner, rfl, hn, he⟩ := closeThrough_eq_some_iff.1 hc
      exact .closed he hn
    · cases h
  | text content =>
    obtain ⟨rfl, rfl⟩ := by simpa [Token.events] using h
    exact .text content
  | skipped =>
    obtain ⟨rfl, rfl⟩ := by simpa [Token.events] using h
    exact .skipped

theorem Token.events_endTag {name : String} {inner : List String} (hn : name ∉ inner)
    (left : List String) : Token.events (inner ++ name :: left) (.endTag name) =
      .ok ((inner ++ [name]).map .stop, left) := by
  rw [Token.events, closeThrough_eq_some_iff.2 ⟨inner, rfl, hn, rfl⟩]

theorem Token.events_endTag_of_notMem {name : String} {elements : List String}
    (h : name ∉ elements) : Token.events elements (.endTag name) = .error name := by
  rw [Token.events]
  split
  · next closed left hc =>
    obtain ⟨inner, -, -, he⟩ := closeThrough_eq_some_iff.1 hc
    exact absurd (by simp [he]) h
  · rfl

/-- Only the end tag of an element that is not open has no events. -/
theorem Token.eq_endTag_of_events {token : Token} {elements : List String} {name : String}
    (h : token.events elements = .error name) : token = .endTag name ∧ name ∉ elements := by
  cases token with
  | startTag name selfClosing => cases selfClosing <;> cases h
  | endTag name' =>
    by_cases hn : name' ∈ elements
    · obtain ⟨inner, left, rfl, hinner⟩ := List.eq_append_cons_of_mem hn
      rw [Token.events_endTag hinner] at h
      cases h
    · obtain rfl := Except.error.inj ((Token.events_endTag_of_notMem hn).symm.trans h)
      exact ⟨rfl, hn⟩
  | text content => cases h
  | skipped => cases h

/-- What a token adds to the open elements and to the waiting events, besides the event that is
handed out at once. -/
theorem Token.length_tail_events_le {token : Token} {elements left : List String}
    {es : List Event} (h : token.events elements = .ok (es, left)) :
    es.tail.length + left.length ≤ elements.length + 1 := by
  cases leaves_of_events h with
  | opened name => simp
  | selfClosed name => simp
  | closed he hn =>
    simp only [he, List.length_tail, List.length_map, List.length_append, List.length_cons,
      List.length_nil]
    omega
  | text content => simp
  | skipped => simp

namespace Cursor

/-! ### What is still to come -/

/-- The events that a cursor has still to hand out, and the fault that ends them early. -/
def reading (c : Cursor) : Reading :=
  (if c.finished then ⟨[], none⟩ else readFrom c.size c.elements c.rest).after c.pending

@[simp] theorem reading_start (fragment : String) : (start fragment).reading = read fragment := rfl

/-- A pass takes the event it hands out from the front of what is still to come. -/
theorem Goes.reading_eq {c c' : Cursor} {event : Option Event} (h : c.Goes event c') :
    c.reading = c'.reading.after event.toList := by
  cases h with
  | handOut hp => simp [reading, hp, Reading.after]
  | close hp hf hr => simp [reading, hp, hf, hr, Reading.after]
  | @token a s rest token events elements hp hf hr ht he =>
    have hs : events.head?.toList ++ events.tail = events := by cases events <;> simp
    simp [reading, hp, hf, hr, readFrom_of_token ht he, Reading.after, ← List.append_assoc, hs]

/-- A pass that fails does so with the fault that ends what is still to come. -/
theorem reading_of_failed {c c' : Cursor} {fault : Fault} (h : c.pass = .failed fault c') :
    c.reading = ⟨[], some fault⟩ := by
  cases fails_of_pass h with
  | unterminated hp hf hr ht =>
    simp [reading, hp, hf, hr, readFrom_of_unterminated ht, offset, Reading.after]
  | unexpected hp hf hr ht he =>
    simp [reading, hp, hf, hr, readFrom_of_unexpected ht he, offset, Reading.after]

theorem reading_of_ended {c : Cursor} (h : c.pass = .ended) : c.reading = ⟨[], none⟩ := by
  obtain ⟨hp, hf⟩ := pass_eq_ended_iff.1 h
  simp [reading, hp, hf, Reading.after]

/-- What was handed out and what is still to come make up the reading. -/
theorem Reaches.read_eq {fragment : String} {delivered : List Event} {c : Cursor}
    (h : Reaches fragment delivered c) : read fragment = c.reading.after delivered := by
  induction h with
  | start => rw [reading_start, Reading.after_nil]
  | went h hp ih => rw [ih, (goes_of_pass hp).reading_eq, Reading.after_after]

/-! ### A cursor comes to an end -/

/-- A bound for the passes that are still to come. -/
def work (c : Cursor) : Nat :=
  c.pending.length + c.elements.length + 2 * c.rest.length + if c.finished then 0 else 1

theorem Goes.work_lt {c c' : Cursor} {event : Option Event} (h : c.Goes event c') :
    c'.work < c.work := by
  cases h with
  | handOut hp => simp [work, hp]
  | close hp hf hr => simp [work, hp, hf, hr]
  | token hp hf hr ht he =>
    have hs := Token.length_le_of_read ht
    have he := Token.length_tail_events_le he
    simp only [work, hp, hf, hr, List.length_nil, List.length_cons]
    omega

/-- The pass that comes after all events: the end, or the failure with the fault. -/
def EndsWith (c : Cursor) : Option Fault → Prop
  | none => c.pass = .ended
  | some fault => ∃ next, c.pass = .failed fault next

theorem Reaches.exists_end {fragment : String} {delivered : List Event} {c : Cursor}
    (h : Reaches fragment delivered c) :
    ∃ c', Reaches fragment (delivered ++ c.reading.events) c' ∧ c'.EndsWith c.reading.fault := by
  cases hp : c.pass with
  | ended =>
    rw [reading_of_ended hp, List.append_nil]
    exact ⟨c, h, hp⟩
  | failed fault next =>
    rw [reading_of_failed hp, List.append_nil]
    exact ⟨c, h, next, hp⟩
  | went event next =>
    have hg := goes_of_pass hp
    have := hg.work_lt
    obtain ⟨c', hc', he⟩ := (h.went hp).exists_end
    rw [hg.reading_eq]
    exact ⟨c', by simpa using hc', he⟩
termination_by c.work

/-- All events of a fragment are handed out, and then the cursor ends as the reading does. -/
theorem exists_reaches_read (fragment : String) :
    ∃ c, Reaches fragment (read fragment).events c ∧ c.EndsWith (read fragment).fault := by
  simpa using Reaches.exists_end (.start : Reaches fragment _ _)

end Cursor

end ApiStubs.Fragment
