/-!
# Events of a description fragment

A description is a fragment of HTML. Reading it gives a flat sequence of events, and stops at the
first fault.

* `Event`: a start tag, an end tag (written or implied), or a run of text;
* `Fault`: why a fragment cannot be read, with the byte offset in the wrapped fragment;
* `Reading`: the events up to the end or up to the fault.
-/

namespace ApiStubs.Fragment

/-- One item of the flat form of a fragment. -/
inductive Event where
  /-- An element opens. One that closes itself has no content and no `stop`. -/
  | start (name : String) (selfClosing : Bool)
  /-- An element closes. -/
  | stop (name : String)
  /-- Text with its character references decoded. -/
  | text (content : String)
  deriving DecidableEq, Repr

/-- Why a fragment cannot be read. -/
inductive Fault where
  /-- A tag, declaration or character data section that does not end. -/
  | unterminatedTag (offset : Nat)
  /-- A comment that does not end. -/
  | unterminatedComment (offset : Nat)
  /-- An end tag that matches no open element. -/
  | unexpectedEndTag (name : String) (offset : Nat)
  deriving DecidableEq, Repr

/-- The wording of a fault. -/
def Fault.message : Fault → String
  | .unterminatedTag offset => "unterminated tag at offset " ++ offset.repr
  | .unterminatedComment offset => "unterminated comment at offset " ++ offset.repr
  | .unexpectedEndTag name offset =>
    "unexpected closing tag </" ++ name ++ "> at offset " ++ offset.repr

/-- The events of a fragment, with the fault that ended them early, if one did. -/
structure Reading where
  events : List Event
  fault : Option Fault
  deriving DecidableEq, Repr

/-- The reading with more events in front. -/
def Reading.after (r : Reading) (events : List Event) : Reading :=
  { r with events := events ++ r.events }

@[simp] theorem Reading.after_events (r : Reading) (events : List Event) :
    (r.after events).events = events ++ r.events := rfl

@[simp] theorem Reading.after_fault (r : Reading) (events : List Event) :
    (r.after events).fault = r.fault := rfl

@[simp] theorem Reading.after_nil (r : Reading) : r.after [] = r := rfl

@[simp] theorem Reading.after_after (r : Reading) (later earlier : List Event) :
    (r.after later).after earlier = r.after (earlier ++ later) := by
  simp [after]

/-- All events, or the fault. -/
def Reading.toExcept (r : Reading) : Except Fault (List Event) :=
  match r.fault with
  | some fault => .error fault
  | none => .ok r.events

end ApiStubs.Fragment
