import ApiStubs.Text.Search

/-!
# Descriptions inside comments

A description keeps its markup when it goes into a documentation comment; only its line breaks
have to go, since such a comment is one line.

* `docComment`: line breaks written as a character reference;
* `plainSummary`: the first line, without paragraph tags.
-/

namespace ApiStubs.Text

/-- The character reference that stands for a line break in a comment. -/
def docLineBreak : List Char := "&#10;".toList

/-- The mark of a summary that was cut at its first line. -/
def ellipsis : List Char := " ...".toList

/-- The description with every line break, in either form, as `docLineBreak`. -/
def docComment (s : List Char) : List Char :=
  replaceAll ['\n'] docLineBreak (replaceAll ['\r', '\n'] docLineBreak s)

/-- The text without opening and closing paragraph tags. -/
def dropParagraphs (s : List Char) : List Char :=
  replaceAll "</p>".toList [] (replaceAll "<p>".toList [] s)

/-- The text without the carriage returns it ends with. -/
def dropTrailingReturns (s : List Char) : List Char :=
  (s.reverse.dropWhile (· == '\r')).reverse

/-- The first line without paragraph tags, with `ellipsis` if more lines follow. -/
def plainSummary (s : List Char) : List Char :=
  match splitFirst? ['\n'] s with
  | some (first, _) => dropParagraphs (dropTrailingReturns first) ++ ellipsis
  | none => dropParagraphs s

end ApiStubs.Text
