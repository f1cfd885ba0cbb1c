import ApiStubs.Text.Search

/-!
# Escaped text

Text as it stands between the double quotes of a string literal.

* `escapedNewline`: a line break inside a literal, always carriage return and line feed;
* `escapeLiteral`: backslashes and quotes escaped, both kinds of line break written so.
-/

namespace ApiStubs.Text

/-- The four characters that spell a line break inside a literal. -/
def escapedNewline : List Char := ['\\', 'r', '\\', 'n']

/-- Backslashes and quotes get a backslash; then a carriage return with its line feed, and last a
line feed alone, become `escapedNewline`. A carriage return alone stays. -/
def escapeLiteral (s : List Char) : List Char :=
  let backslashes := replaceAll ['\\'] ['\\', '\\'] s
  let quotes := replaceAll ['"'] ['\\', '"'] backslashes
  let pairs := replaceAll ['\r', '\n'] escapedNewline quotes
  replaceAll ['\n'] escapedNewline pairs

@[simp] theorem escapeLiteral_nil : escapeLiteral [] = [] := rfl

end ApiStubs.Text
