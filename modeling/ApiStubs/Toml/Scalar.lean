import ApiStubs.Text.Digit
import ApiStubs.Text.Search

/-!
# Numbers, dates and times

A value without quotation marks and brackets is a word. What a word means does not matter, but it
must be one of the words of the language.

* `digits?`: digits in groups;
* `isInteger`, `isFloat`: numbers that are in range;
* `afterDate?`, `afterTime?`, `isMoment`: dates and times;
* `isScalar`: any word.
-/

namespace ApiStubs.Toml

open Text

/-! ### Digits -/

/-- The digits of a number, at least one, which single low lines may group. -/
def digits? (base : Nat) : List Char → Option (List Nat)
  | [] => none
  | [c] => (digitOf? base c).map ([·])
  | c :: '_' :: s => do
    let d ← digitOf? base c
    let ds ← digits? base s
    some (d :: ds)
  | c :: s => do
    let d ← digitOf? base c
    let ds ← digits? base s
    some (d :: ds)

/-- A word without the sign in front of it; whether it is a minus. -/
def unsigned : List Char → Bool × List Char
  | '-' :: s => (true, s)
  | '+' :: s => (false, s)
  | s => (false, s)

/-- The digits of a whole number in base ten, which starts with zero only if it is zero. -/
def wholeDigits? (s : List Char) : Option (List Nat) := do
  match ← digits? 10 s with
  | 0 :: _ :: _ => none
  | ds => some ds

/-! ### Integers -/

/-- The base that a word names, and its digits. -/
def based? : List Char → Option (Nat × List Char)
  | '0' :: 'x' :: s => some (16, s)
  | '0' :: 'o' :: s => some (8, s)
  | '0' :: 'b' :: s => some (2, s)
  | _ => none

/-- An integer of 64 bits with sign. -/
def isInteger (word : List Char) : Bool :=
  match based? word with
  | some (base, s) => (digits? base s).any fun ds => numberOf base ds < Nat.pow 2 63
  | none =>
    let (negative, s) := unsigned word
    (wholeDigits? s).any fun ds => numberOf 10 ds < Nat.pow 2 63 + (if negative then 1 else 0)

/-! ### Floating point -/

/-- The least number that rounds to infinity, half a unit above the greatest one. -/
def infinityLimit : Nat := Nat.pow 2 1024 - Nat.pow 2 970

/-- The number `n` with `count` digits is beyond all range when it is scaled by a power of ten. Its
magnitude decides, unless it is that of the limit. -/
def overflows (n count : Nat) (exponent : Int) : Bool :=
  let magnitude := count + exponent
  if n = 0 ∨ magnitude < 309 then false
  else if 309 < magnitude then true
  else if exponent < 0 then infinityLimit * Nat.pow 10 exponent.natAbs ≤ n
  else infinityLimit ≤ n * Nat.pow 10 exponent.natAbs

/-- A word cut before its exponent. -/
def cutExponent (s : List Char) : List Char × Option (List Char) :=
  let mantissa := s.takeWhile fun c => c != 'e' && c != 'E'
  match s.dropWhile fun c => c != 'e' && c != 'E' with
  | [] => (mantissa, none)
  | _ :: exponent => (mantissa, some exponent)

/-- A number with a fraction or an exponent. One that is too great is refused, one that is too low
is not. -/
def isDecimal (word : List Char) : Bool :=
  let (negative, s) := unsigned word
  let (mantissa, exponent) := cutExponent s
  let (whole, fraction) := match splitFirst? ['.'] mantissa with
    | some (whole, fraction) => (whole, some fraction)
    | none => (mantissa, none)
  let value : Option Bool := do
    let whole ← wholeDigits? whole
    let fraction ← match fraction with
      | some s => digits? 10 s
      | none => some []
    let power ← match exponent with
      | some s =>
        let (down, s) := unsigned s
        (digits? 10 s).map fun ds => if down then -(numberOf 10 ds : Int) else numberOf 10 ds
      | none => some 0
    let ds := (whole ++ fraction).dropWhile (· == 0)
    some (!negative && overflows (numberOf 10 ds) ds.length (power - fraction.length))
  (fraction.isSome || exponent.isSome) && value == some false

/-- A number in floating point, infinity, or no number. -/
def isFloat (word : List Char) : Bool :=
  isDecimal word ||
    (let s := (unsigned word).2; s == ['i', 'n', 'f'] || s == ['n', 'a', 'n'])

/-! ### Dates and times -/

/-- The number of two digits. -/
def pair? (a b : Char) : Option Nat := (digitsOf? 10 [a, b]).map (numberOf 10)

/-- The days of a month. -/
def daysIn (year month : Nat) : Nat :=
  if month = 2 then
    if year % 4 = 0 ∧ (year % 100 ≠ 0 ∨ year % 400 = 0) then 29 else 28
  else if month = 4 ∨ month = 6 ∨ month = 9 ∨ month = 11 then 30
  else 31

/-- What follows a date of the calendar. -/
def afterDate? : List Char → Option (List Char)
  | a :: b :: c :: d :: '-' :: e :: f :: '-' :: g :: h :: s => do
    let year ← (digitsOf? 10 [a, b, c, d]).map (numberOf 10)
    let month ← pair? e f
    let day ← pair? g h
    if 1 ≤ month ∧ month ≤ 12 ∧ 1 ≤ day ∧ day ≤ daysIn year month then some s else none
  | _ => none

/-- What follows the fraction of a second, if there is one. -/
def afterFraction? : List Char → Option (List Char)
  | '.' :: s =>
    if (s.takeWhile Char.isDigit).isEmpty then none else some (s.dropWhile Char.isDigit)
  | s => some s

/-- What follows a time of the day, which may hold a leap second. -/
def afterTime? : List Char → Option (List Char)
  | a :: b :: ':' :: c :: d :: ':' :: e :: f :: s => do
    let hour ← pair? a b
    let minute ← pair? c d
    let second ← pair? e f
    if hour < 24 ∧ minute < 60 ∧ second ≤ 60 then afterFraction? s else none
  | _ => none

/-- The distance of a time zone, or nothing. -/
def isZone : List Char → Bool
  | [] | ['Z'] | ['z'] => true
  | [sign, a, b, ':', c, d] =>
    (sign == '+' || sign == '-') && (pair? a b).any (· < 24) && (pair? c d).any (· < 60)
  | _ => false

/-- A date, a time, or both. A time zone needs both. -/
def isMoment (word : List Char) : Bool :=
  match afterDate? word with
  | some [] => true
  | some (c :: s) => (c == 'T' || c == 't' || c == ' ') && (afterTime? s).any isZone
  | none => afterTime? word == some []

/-! ### Words -/

/-- A character of a word. -/
def isWordChar (c : Char) : Bool :=
  c.isAlphanum || c == '_' || c == '-' || c == '+' || c == '.' || c == ':'

/-- A word of the language. -/
def isScalar (word : List Char) : Bool :=
  word == "true".toList || word == "false".toList || isInteger word || isFloat word ||
    isMoment word

end ApiStubs.Toml
