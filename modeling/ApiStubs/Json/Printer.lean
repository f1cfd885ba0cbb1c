import ApiStubs.Json.Value

/-!
# Writing JSON

* `escapeChar`, `renderText`: a string, with only the necessary escapes;
* `render`: a value without any space;
* `renderIndented`: a value over several lines, two spaces to a level.

A value with a broken place has no text; such a place is written as nothing.
-/

namespace ApiStubs.Json

/-- The digit of a hexadecimal number, in small letters. -/
def hexDigit (n : Nat) : Char := Nat.digitChar n

/-- A character inside a string. Only quotes, backslashes and controls are escaped. -/
def escapeChar (c : Char) : List Char :=
  if c = '"' then ['\\', '"']
  else if c = '\\' then ['\\', '\\']
  else if c = '\x08' then ['\\', 'b']
  else if c = '\x0c' then ['\\', 'f']
  else if c = '\n' then ['\\', 'n']
  else if c = '\r' then ['\\', 'r']
  else if c = '\t' then ['\\', 't']
  else if c.toNat < 0x20 then
    ['\\', 'u', '0', '0', hexDigit (c.toNat / 16), hexDigit (c.toNat % 16)]
  else [c]

/-- A string between its quotes. -/
def renderText (s : String) : List Char := '"' :: s.toList.flatMap escapeChar ++ ['"']

/-- Digits in a row. -/
def renderDigits (digits : List Nat) : List Char := digits.map Nat.digitChar

/-- A number as it is written. -/
def renderNumeral (n : Numeral) : List Char :=
  (if n.negative then ['-'] else []) ++ renderDigits n.whole ++
    (if n.fraction.isEmpty then [] else '.' :: renderDigits n.fraction) ++
    match n.exponent with
    | none => []
    | some (negative, digits) => 'e' :: (if negative then ['-'] else []) ++ renderDigits digits

/-- The key of a member, or a string that may be none. -/
def renderText? (s : Option String) : List Char := renderText (s.getD "")

mutual

/-- A value without any space. -/
def render : Json → List Char
  | .null => "null".toList
  | .bool b => if b then "true".toList else "false".toList
  | .number n => renderNumeral n
  | .text s => renderText? s
  | .array items => '[' :: renderItems items ++ [']']
  | .object members => '{' :: renderMembers members ++ ['}']
  | .broken => []

/-- Items with commas between them. -/
def renderItems : List Json → List Char
  | [] => []
  | [v] => v.render
  | v :: items => v.render ++ ',' :: renderItems items

/-- Members with commas between them. -/
def renderMembers : List (Option String × Json) → List Char
  | [] => []
  | [(key, v)] => renderText? key ++ ':' :: v.render
  | (key, v) :: members => renderText? key ++ ':' :: v.render ++ ',' :: renderMembers members

end

/-- A line break and the indentation of a level. -/
def newlineAt (level : Nat) : List Char := '\n' :: List.replicate (2 * level) ' '

mutual

/-- A value over several lines. Empty containers stay on one. -/
def renderIndented (level : Nat) : Json → List Char
  | .array [] => ['[', ']']
  | .array (v :: items) =>
    '[' :: newlineAt (level + 1) ++ renderIndented (level + 1) v ++
      renderIndentedItems (level + 1) items ++ newlineAt level ++ [']']
  | .object [] => ['{', '}']
  | .object ((key, v) :: members) =>
    '{' :: newlineAt (level + 1) ++ renderText? key ++ [':', ' '] ++
      renderIndented (level + 1) v ++ renderIndentedMembers (level + 1) members ++
      newlineAt level ++ ['}']
  | .null => "null".toList
  | .bool b => if b then "true".toList else "false".toList
  | .number n => renderNumeral n
  | .text s => renderText? s
  | .broken => []

/-- The items after the first, each on a line of its own. -/
def renderIndentedItems (level : Nat) : List Json → List Char
  | [] => []
  | v :: items =>
    ',' :: newlineAt level ++ renderIndented level v ++ renderIndentedItems level items

/-- The members after the first, each on a line of its own. -/
def renderIndentedMembers (level : Nat) : List (Option String × Json) → List Char
  | [] => []
  | (key, v) :: members =>
    ',' :: newlineAt level ++ renderText? key ++ [':', ' '] ++ renderIndented level v ++
      renderIndentedMembers level members

end

/-- The text of a value without any space. -/
def toText (v : Json) : String := String.ofList v.render

/-- The text of a value over several lines, ended by a line feed. -/
def toIndentedText (v : Json) : String := String.ofList (v.renderIndented 0 ++ ['\n'])

end ApiStubs.Json
