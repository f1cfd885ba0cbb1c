import ApiStubs.Text.CharacterReference.Capital
import ApiStubs.Text.CharacterReference.Small
import ApiStubs.Text.Digit

/-!
# Character references

A reference is written between `&` and `;`: by name, or by code point in decimal or hexadecimal.

* `namesFrom`, `named?`: the table of names by initial, and the character a name stands for;
* `numbered?`: the character of a numeric reference;
* `decode`: a text with its references replaced, in one pass from the left.

What is not a reference stays as it is written.
-/

namespace ApiStubs.Text.CharacterReference

/-- The names with a given initial. -/
def namesFrom : Char → List (String × Nat)
  | 'A' => capitalA
  | 'B' => capitalB
  | 'C' => capitalC
  | 'D' => capitalD
  | 'E' => capitalE
  | 'F' => capitalF
  | 'G' => capitalG
  | 'H' => capitalH
  | 'I' => capitalI
  | 'J' => capitalJ
  | 'K' => capitalK
  | 'L' => capitalL
  | 'M' => capitalM
  | 'N' => capitalN
  | 'O' => capitalO
  | 'P' => capitalP
  | 'Q' => capitalQ
  | 'R' => capitalR
  | 'S' => capitalS
  | 'T' => capitalT
  | 'U' => capitalU
  | 'V' => capitalV
  | 'W' => capitalW
  | 'X' => capitalX
  | 'Y' => capitalY
  | 'Z' => capitalZ
  | 'a' => smallA
  | 'b' => smallB
  | 'c' => smallC
  | 'd' => smallD
  | 'e' => smallE
  | 'f' => smallF
  | 'g' => smallG
  | 'h' => smallH
  | 'i' => smallI
  | 'j' => smallJ
  | 'k' => smallK
  | 'l' => smallL
  | 'm' => smallM
  | 'n' => smallN
  | 'o' => smallO
  | 'p' => smallP
  | 'q' => smallQ
  | 'r' => smallR
  | 's' => smallS
  | 't' => smallT
  | 'u' => smallU
  | 'v' => smallV
  | 'w' => smallW
  | 'x' => smallX
  | 'y' => smallY
  | 'z' => smallZ
  | _ => []

/-- The character a name stands for. -/
def named? : List Char → Option Char
  | [] => none
  | c :: name => ((namesFrom c).lookup (String.ofList (c :: name))).map Char.ofNat

/-- The character with this number, unless it is a control other than tab, line feed, form feed
and carriage return. -/
def charOfNumber? (n : Nat) : Option Char :=
  if n.isValidChar ∧ (32 ≤ n ∨ n ∈ [9, 10, 12, 13]) then some (Char.ofNat n) else none

/-- The character of at least one digit in the base. -/
def numbered? (base : Nat) : List Char → Option Char
  | [] => none
  | digits => ((digitsOf? base digits).map (numberOf base)).bind charOfNumber?

/-- The character of the reference with this text between `&` and `;`. -/
def char? : List Char → Option Char
  | '#' :: 'x' :: digits => numbered? 16 digits
  | '#' :: 'X' :: digits => numbered? 16 digits
  | '#' :: digits => numbered? 10 digits
  | name => named? name

/-- What a complete reference becomes: its character, or the reference itself. -/
def resolve (body : List Char) : List Char :=
  match char? body with
  | some c => [c]
  | none => '&' :: body ++ [';']

/-- `decode` with the body of a reference begun but not ended, last character first. An ampersand
inside it begins another one. -/
def decodeFrom : Option (List Char) → List Char → List Char
  | none, [] => []
  | none, c :: s => if c = '&' then decodeFrom (some []) s else c :: decodeFrom none s
  | some body, [] => '&' :: body.reverse
  | some body, c :: s =>
    if c = ';' then resolve body.reverse ++ decodeFrom none s
    else if c = '&' then '&' :: body.reverse ++ decodeFrom (some []) s
    else decodeFrom (some (c :: body)) s

/-- The text with its references replaced by the characters they stand for. -/
def decode (s : List Char) : List Char := decodeFrom none s

@[simp] theorem decode_nil : decode [] = [] := rfl

theorem decode_cons_of_ne {c : Char} (h : c ≠ '&') (s : List Char) :
    decode (c :: s) = c :: decode s := by
  simp [decode, decodeFrom, h]

end ApiStubs.Text.CharacterReference
