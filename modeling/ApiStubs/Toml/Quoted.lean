import ApiStubs.Text.Digit
import ApiStubs.Text.Scan

/-!
# Strings of TOML

Four kinds of quotation: with or without escapes, on one line or on several.

* `isPrintable`, `newline`: characters that may stand in strings and comments, and line ends;
* `escape`: an escaped character;
* `basic`, `literal`: strings on one line;
* `basicLines`, `literalLines`: strings on several lines;
* `quotation`: a string of any kind.
-/

namespace ApiStubs.Toml

open Text

/-- Every character but the controls; of those, only the tab. -/
def isPrintable (c : Char) : Bool := c == '\t' || decide (0x20 ≤ c.toNat) && c.toNat != 0x7F

/-- Blanks within a line. -/
def isSpace (c : Char) : Bool := c == ' ' || c == '\t'

/-- The end of a line. -/
def newline : Scan Unit := Scan.exactly "\n" <|> Scan.exactly "\r\n"

/-! ### Escapes -/

/-- The character whose number is written with `n` hexadecimal digits. -/
def numbered (n : Nat) : Scan Char := do
  let digits ← digitsOf? 16 (← Scan.chars n)
  let code := numberOf 16 digits
  if code.isValidChar then return Char.ofNat code else failure

/-- The character of an escape with one letter. -/
def shortEscape? : Char → Option Char
  | '"' => some '"'
  | '\\' => some '\\'
  | 'b' => some '\x08'
  | 'f' => some '\x0c'
  | 'n' => some '\n'
  | 'r' => some '\r'
  | 't' => some '\t'
  | _ => none

/-- An escaped character, as the text it stands for. -/
def escape : Scan (List Char) := do
  Scan.exactly "\\"
  match ← Scan.chars 1 with
  | ['u'] => return [← numbered 4]
  | ['U'] => return [← numbered 8]
  | [c] => return [← shortEscape? c]
  | _ => failure

/-! ### On one line -/

/-- A text in pieces, up to the closing quotation mark. -/
def closedBy (mark : String) (piece : Scan (List Char)) : Scan (List Char) := do
  let pieces ← Scan.many piece
  Scan.exactly mark
  return pieces.flatten

/-- A character that stands for itself beside escapes. -/
def isPlain (c : Char) : Bool := isPrintable c && c != '"' && c != '\\'

/-- A string with escapes, after the quotation mark. -/
def basic : Scan (List Char) := closedBy "\"" (Scan.run1 isPlain <|> escape)

/-- A character that stands for itself between apostrophes. -/
def isVerbatim (c : Char) : Bool := isPrintable c && c != '\''

/-- A string without escapes, after the apostrophe. -/
def literal : Scan (List Char) := closedBy "'" (Scan.run1 isVerbatim)

/-! ### On several lines -/

/-- One or two quotation marks, which do not close a string that three of them close. -/
def loneMarks (mark : Char) : Scan (List Char) := do
  let marks ← Scan.run1 (· == mark)
  if marks.length < 3 then return marks else failure

/-- The quotation marks that close a string. Two that stand before the last three are its text. -/
def closingMarks (mark : Char) : Scan (List Char) := do
  let marks ← Scan.run (· == mark)
  if 3 ≤ marks.length ∧ marks.length ≤ 5 then return marks.drop 3 else failure

/-- A line end within a string, however it is written. -/
def lineEnd : Scan (List Char) := do
  newline
  return ['\n']

/-- A line end that an escape takes away, with the blanks and line ends around it. -/
def joint : Scan (List Char) := do
  Scan.exactly "\\"
  let _ ← Scan.run isSpace
  newline
  let _ ← Scan.many ((fun _ => ()) <$> Scan.run1 isSpace <|> newline)
  return []

/-- A string on several lines, after the quotation marks; a line end behind them is left out. -/
def linesWithin (mark : Char) (piece : Scan (List Char)) : Scan (List Char) := do
  let _ ← Scan.optional newline
  let pieces ← Scan.many (piece <|> lineEnd <|> loneMarks mark)
  let last ← closingMarks mark
  return pieces.flatten ++ last

/-- A string with escapes on several lines, after the quotation marks. -/
def basicLines : Scan (List Char) := linesWithin '"' (Scan.run1 isPlain <|> joint <|> escape)

/-- A string without escapes on several lines, after the apostrophes. -/
def literalLines : Scan (List Char) := linesWithin '\'' (Scan.run1 isVerbatim)

/-! ### Any kind -/

/-- A string on one line. -/
def quotation1 : Scan (List Char) := do
  match ← Scan.chars 1 with
  | ['"'] => basic
  | ['\''] => literal
  | _ => failure

/-- A string. -/
def quotation : Scan (List Char) := do
  match ← Scan.optional (Scan.exactly "\"\"\"") with
  | some () => basicLines
  | none =>
    match ← Scan.optional (Scan.exactly "'''") with
    | some () => literalLines
    | none => quotation1

end ApiStubs.Toml
