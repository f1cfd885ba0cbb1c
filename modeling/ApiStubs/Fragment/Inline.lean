import ApiStubs.Fragment.Reader
import ApiStubs.Text.Literal

/-!
# Descriptions as running text

A description flattened into one run of text: list items are marked, the ends of block elements
become line breaks, and line breaks at the very end are dropped.

* `InlineStyle`: how line breaks and text are written, with `escaped` and `plain`;
* `Event.inline`: what one event adds;
* `dropRepeated`, `trimEndOf`: a text without the copies of a pattern it starts or ends with;
* `renderInline`: the running text of a fragment.
-/

namespace ApiStubs.Fragment

open Text

/-- How running text is written. -/
structure InlineStyle where
  /-- What is written for a line break; never empty. -/
  newline : String
  /-- Text is escaped as in a string literal. -/
  escape : Bool
  newline_ne_empty : newline ≠ "" := by decide

/-- One line, fit to stand between double quotes. -/
def InlineStyle.escaped : InlineStyle := ⟨String.ofList escapedNewline, true, by decide⟩

/-- Text of several lines as it is. -/
def InlineStyle.plain : InlineStyle := ⟨"\n", false, by decide⟩

/-- What is written before the content of a list item. -/
def listItemMarker : String := "* "

/-- Elements after which a line ends. -/
def blockElements : List String := ["p", "li", "h1", "h2", "h3", "h4", "h5"]

/-- What an event adds to the running text. -/
def Event.inline (style : InlineStyle) : Event → List Char
  | .start name _ => if name = "li" then listItemMarker.toList else []
  | .stop name => if blockElements.contains name then style.newline.toList else []
  | .text content => if style.escape then escapeLiteral content.toList else content.toList

/-- The text without the copies of the pattern it starts with. -/
def dropRepeated (pattern : List Char) (s : List Char) : List Char :=
  match stripPrefix? pattern s with
  | none => s
  | some rest => if rest.length < s.length then dropRepeated pattern rest else rest
termination_by s.length

/-- The text without the copies of the pattern it ends with. -/
def trimEndOf (pattern s : List Char) : List Char :=
  (dropRepeated pattern.reverse s.reverse).reverse

/-- The running text of a sequence of events. -/
def inlineText (style : InlineStyle) (events : List Event) : String :=
  String.ofList (trimEndOf style.newline.toList (events.flatMap (Event.inline style)))

/-- The running text of a fragment. -/
def renderInline (fragment : String) (style : InlineStyle) : Except Fault String :=
  (read fragment).toExcept.map (inlineText style)

end ApiStubs.Fragment
