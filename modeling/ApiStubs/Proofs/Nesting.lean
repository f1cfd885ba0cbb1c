import ApiStubs.Proofs.CursorReading
import ApiStubs.Proofs.TokenShapes

/-!
# The nesting of events

Events are replayed on a stack of names: the start of an element that does not close itself pushes
its name, the end of an element pops it, and nothing else may be on top then.

* `replay`: the stack after a sequence of events, or the report that it is not nested;
* `Balanced`: sequences in which every start that does not close itself has its own end;
* `Cursor.Reaches.replay_eq`: what was handed out leaves the names that wait for their end events
  and the open elements on the stack;
* `read_nested`: the events of every fragment are nested.
-/

namespace ApiStubs.Fragment

/-! ### Replaying events -/

/-- The stack of open names, innermost first, after an event. -/
def Event.replay (stack : List String) : Event → Option (List String)
  | .start name false => some (name :: stack)
  | .start _ true => some stack
  | .text _ => some stack
  | .stop name =>
    match stack with
    | [] => none
    | top :: below => if top = name then some below else none

/-- The stack of open names after a sequence of events. -/
def replay (stack : List String) (events : List Event) : Option (List String) :=
  events.foldlM Event.replay stack

@[simp] theorem replay_nil (stack : List String) : replay stack [] = some stack := rfl

@[simp] theorem replay_cons (stack : List String) (event : Event) (events : List Event) :
    replay stack (event :: events) = (event.replay stack).bind (replay · events) := rfl

theorem replay_append (stack : List String) (earlier later : List Event) :
    replay stack (earlier ++ later) = (replay stack earlier).bind (replay · later) := by
  simp [replay, List.foldlM_append]

/-- Open elements below those that events close do not matter. -/
theorem replay_append_below {events : List Event} {stack st : List String}
    (h : replay stack events = some st) (below : List String) :
    replay (stack ++ below) events = some (st ++ below) := by
  induction events generalizing stack with
  | nil =>
    obtain rfl : stack = st := by simpa using h
    rfl
  | cons event events ih =>
    obtain ⟨next, hn, h⟩ := Option.bind_eq_some_iff.1 h
    have hn : event.replay (stack ++ below) = some (next ++ below) := by
      cases event with
      | text content =>
        obtain rfl : stack = next := by simpa [Event.replay] using hn
        rfl
      | start name selfClosing =>
        cases selfClosing
        · obtain rfl : name :: stack = next := by simpa [Event.replay] using hn
          rfl
        · obtain rfl : stack = next := by simpa [Event.replay] using hn
          rfl
      | stop name =>
        cases stack with
        | nil => simp [Event.replay] at hn
        | cons top under =>
          obtain ⟨rfl, rfl⟩ : top = name ∧ under = next := by simpa [Event.replay] using hn
          simp [Event.replay]
    rw [replay_cons, hn]
    exact ih h

theorem replay_map_stop (names below : List String) :
    replay (names ++ below) (names.map .stop) = some below := by
  induction names with
  | nil => rfl
  | cons name names ih => simpa [Event.replay] using ih

/-! ### Balanced sequences -/

/-- Every start of an element that does not close itself has its own end, and every end its own
start. -/
inductive Balanced : List Event → Prop
  | nil : Balanced []
  | text {events : List Event} (content : String) (h : Balanced events) :
      Balanced (.text content :: events)
  | selfClosed {events : List Event} (name : String) (h : Balanced events) :
      Balanced (.start name true :: events)
  | element {inside after : List Event} (name : String) (hi : Balanced inside)
      (ha : Balanced after) : Balanced (.start name false :: (inside ++ .stop name :: after))

theorem Balanced.replay_eq {events : List Event} (h : Balanced events) (stack : List String) :
    replay stack events = some stack := by
  induction h generalizing stack with
  | nil => rfl
  | text content h ih => exact ih stack
  | selfClosed name h ih => exact ih stack
  | element name hi ha ihi iha =>
    show replay (name :: stack) _ = _
    rw [replay_append, ihi]
    simpa [Event.replay] using iha stack

/-- Balanced sequences between the ends of the elements on a stack, innermost first. -/
inductive Closes : List String → List Event → Prop
  | nil {events : List Event} (h : Balanced events) : Closes [] events
  | cons {stack : List String} {inside after : List Event} (name : String) (hi : Balanced inside)
      (ha : Closes stack after) : Closes (name :: stack) (inside ++ .stop name :: after)

/-- What can stand before a balanced sequence can stand before the ends of elements. -/
theorem Closes.prepend {stack : List String} {events : List Event} (h : Closes stack events)
    (earlier : List Event) (he : ∀ inside, Balanced inside → Balanced (earlier ++ inside)) :
    Closes stack (earlier ++ events) := by
  cases h with
  | nil h => exact .nil (he _ h)
  | cons name hi ha =>
    rw [← List.append_assoc]
    exact .cons name (he _ hi) ha

/-- Events that empty the stack are balanced between the ends of its elements. -/
theorem closes_of_replay {events : List Event} {stack : List String}
    (h : replay stack events = some []) : Closes stack events := by
  -- the first event is put before what the rest does to the stack it leaves
  induction events generalizing stack with
  | nil =>
    obtain rfl : stack = [] := by simpa using h
    exact .nil .nil
  | cons event events ih =>
    obtain ⟨next, hn, h⟩ := Option.bind_eq_some_iff.1 h
    have hc := ih h
    cases event with
    | text content =>
      obtain rfl : stack = next := by simpa [Event.replay] using hn
      exact hc.prepend [.text content] fun _ => .text content
    | start name selfClosing =>
      cases selfClosing with
      | true =>
        obtain rfl : stack = next := by simpa [Event.replay] using hn
        exact hc.prepend [.start name true] fun _ => .selfClosed name
      | false =>
        obtain rfl : name :: stack = next := by simpa [Event.replay] using hn
        -- what the rest does up to the end of this element is the inside of the element
        cases hc with
        | @cons _ inside after _ hi ha =>
          have := ha.prepend (.start name false :: (inside ++ [.stop name])) fun _ hb => by
            simpa using Balanced.element name hi hb
          simpa using this
    | stop name =>
      cases stack with
      | nil => simp [Event.replay] at hn
      | cons top below =>
        obtain ⟨rfl, rfl⟩ : top = name ∧ below = next := by simpa [Event.replay] using hn
        exact .cons top .nil hc

/-- Balanced are the sequences that leave an empty stack empty. -/
theorem balanced_iff_replay {events : List Event} :
    Balanced events ↔ replay [] events = some [] := by
  constructor
  · intro h
    exact h.replay_eq []
  · intro h
    cases closes_of_replay h with
    | nil h => exact h

/-! ### The events that a cursor hands out -/

/-- After the event that a token hands out at once, the names of those that wait are on the stack
above the elements left open. -/
theorem Token.replay_head {token : Token} {elements left : List String} {es : List Event}
    (h : token.events elements = .ok (es, left)) :
    ∃ waiting : List String, es.tail = waiting.map .stop ∧
      replay elements es.head?.toList = some (waiting ++ left) := by
  cases leaves_of_events h with
  | opened name => exact ⟨[], rfl, rfl⟩
  | selfClosed name => exact ⟨[], rfl, rfl⟩
  | @closed name inner left he hn =>
    rw [he]
    cases inner with
    | nil => exact ⟨[], rfl, by simp [Event.replay]⟩
    | cons top inner => exact ⟨inner ++ [name], by simp, by simp [Event.replay]⟩
  | text content => exact ⟨[], rfl, rfl⟩
  | skipped => exact ⟨[], rfl, rfl⟩

/-- All events of a token lead from the open elements to those it leaves open. -/
theorem Token.replay_eq {token : Token} {elements left : List String} {es : List Event}
    (h : token.events elements = .ok (es, left)) : replay elements es = some left := by
  obtain ⟨waiting, htail, hhead⟩ := replay_head h
  have hes : es = es.head?.toList ++ waiting.map .stop := by
    rw [← htail]
    cases es <;> rfl
  rw [hes, replay_append, hhead]
  exact replay_map_stop waiting left

namespace Cursor

/-- Whatever was handed out is nested. On the stack are the names whose end events wait, and below
them the open elements. -/
theorem Reaches.replay_eq {fragment : String} {delivered : List Event} {c : Cursor}
    (h : Reaches fragment delivered c) :
    ∃ waiting : List String, c.pending = waiting.map .stop ∧
      replay [] delivered = some (waiting ++ c.elements) := by
  induction h with
  | start => exact ⟨[], rfl, rfl⟩
  | @went delivered c c' event _ hpass ih =>
    obtain ⟨waiting, hw, hr⟩ := ih
    rw [replay_append, hr]
    cases goes_of_pass hpass with
    | handOut hp =>
      rw [hp] at hw
      cases waiting with
      | nil => simp at hw
      | cons name waiting =>
        obtain ⟨rfl, rfl⟩ := by simpa using hw
        exact ⟨waiting, rfl, by simp [Event.replay]⟩
    | close hp hf hs =>
      -- the open elements turn into waiting events, and the stack stays as it is
      obtain rfl : waiting = [] := by simpa [hp] using hw.symm
      exact ⟨c.elements, rfl, by simp⟩
    | token hp hf hs ht he =>
      obtain rfl : waiting = [] := by simpa [hp] using hw.symm
      exact Token.replay_head he

/-- When the source has ended no element is open any more. -/
theorem Reaches.elements_eq_nil {fragment : String} {delivered : List Event} {c : Cursor}
    (h : Reaches fragment delivered c) (hf : c.finished = true) : c.elements = [] := by
  induction h with
  | start => cases hf
  | @went delivered c c' event _ hpass ih =>
    cases goes_of_pass hpass with
    | handOut => exact ih hf
    | close => rfl
    | token _ hc => exact absurd hf (by simp [hc])

/-- The waiting events are handed out before anything else happens. -/
theorem Reaches.hand_out {fragment : String} {delivered : List Event} {c : Cursor}
    (h : Reaches fragment delivered c) {events : List Event} (hp : c.pending = events) :
    Reaches fragment (delivered ++ events) { c with pending := [] } := by
  induction events generalizing delivered c with
  | nil =>
    rw [List.append_nil, ← hp]
    exact h
  | cons event events ih =>
    have hw := h.went (pass_of_goes (.handOut hp))
    simpa using ih hw rfl

/-- A token is read, and all its events are handed out. -/
theorem Reaches.token {fragment : String} {delivered : List Event} {c : Cursor}
    (h : Reaches fragment delivered c) (hp : c.pending = []) (hf : c.finished = false) {a : Char}
    {s rest : List Char} {token : Token} {es : List Event} {left : List String}
    (hr : c.rest = a :: s) (ht : Token.read a s = .ok (token, rest))
    (he : token.events c.elements = .ok (es, left)) :
    Reaches fragment (delivered ++ es) { c with rest, elements := left } := by
  have hw := (h.went (pass_of_goes (.token hp hf hr ht he))).hand_out rfl
  have hs : es.head?.toList ++ es.tail = es := by cases es <;> simp
  rw [List.append_assoc, hs] at hw
  simpa [hp] using hw

end Cursor

/-- The events of every fragment are nested.

* Whatever a cursor has handed out leaves on the stack the names whose end events wait and, below
  them, the open elements.
* An end tag, by its trimmed and lowered name, closes the elements down to and including the
  innermost one of that name and leaves all others open; if there is none, the reading fails there.
* All events are handed out, and they leave some stack; without a fault they leave the empty one,
  and every start of an element that does not close itself has its own end. -/
theorem read_nested (fragment : String) :
    (∀ delivered c, Cursor.Reaches fragment delivered c →
      ∃ waiting : List String, c.pending = waiting.map .stop ∧
        replay [] delivered = some (waiting ++ c.elements)) ∧
    (∀ delivered c raw after, Cursor.Reaches fragment delivered c → c.pending = [] →
      c.finished = false → c.rest = '<' :: '/' :: (raw ++ '>' :: after) → '>' ∉ raw →
      (∀ inner outer, c.elements = inner ++ elementName (Text.trim raw) :: outer →
        elementName (Text.trim raw) ∉ inner →
        Cursor.Reaches fragment
          (delivered ++ (inner ++ [elementName (Text.trim raw)]).map .stop)
          { c with rest := after, elements := outer }) ∧
      (elementName (Text.trim raw) ∉ c.elements → read fragment =
        ⟨delivered, some (.unexpectedEndTag (elementName (Text.trim raw)) c.offset)⟩)) ∧
    (∃ c, Cursor.Reaches fragment (read fragment).events c) ∧
    (∃ stack, replay [] (read fragment).events = some stack) ∧
    ((read fragment).fault = none →
      replay [] (read fragment).events = some [] ∧ Balanced (read fragment).events) := by
  obtain ⟨last, hlast, hend⟩ := Cursor.exists_reaches_read fragment
  obtain ⟨waiting, hw, hr⟩ := hlast.replay_eq
  refine ⟨fun _ _ h => h.replay_eq, ?_, ⟨last, hlast⟩, ⟨_, hr⟩, ?_⟩
  · intro delivered c raw after h hp hf hs hraw
    have ht := Token.read_endTag hraw after
    constructor
    · intro inner outer he hn
      refine h.token hp hf hs ht ?_
      rw [Token.events, closeThrough_eq_some_iff.2 ⟨inner, rfl, hn, he⟩]
    · intro hn
      have he : Token.events c.elements (.endTag (elementName (Text.trim raw))) =
          .error (elementName (Text.trim raw)) := by
        rw [Token.events]
        split
        · next closed left hc =>
          obtain ⟨inner, -, -, he⟩ := closeThrough_eq_some_iff.1 hc
          exact absurd (by simp [he]) hn
        · rfl
      rw [h.read_eq, Cursor.reading, hf, hp, hs]
      simp [readFrom_of_unexpected ht he, Reading.after, Cursor.offset, hs]
  · intro hfault
    rw [hfault] at hend
    obtain ⟨hp, hf⟩ := Cursor.pass_eq_ended_iff.1 hend
    obtain rfl : waiting = [] := by simpa [hp] using hw.symm
    rw [hlast.elements_eq_nil hf] at hr
    exact ⟨hr, balanced_iff_replay.2 hr⟩

end ApiStubs.Fragment
