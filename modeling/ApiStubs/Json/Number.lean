import ApiStubs.Json.Value
import ApiStubs.Text.Digit

/-!
# The value of a number

A number without fraction and exponent is an integer if it fits into 64 bits. Any other is in
floating point: a significand of at most 64 bits, scaled by a power of ten.

* `absorb`: the significand that a run of digits makes, as far as it fits;
* `scale?`: a significand scaled by a power of ten, unless it is out of range;
* `Numeral.kind?`: the value of a number, unless it is out of range.
-/

namespace ApiStubs

/-- The greatest significand. -/
def significandLimit : Nat := Nat.pow 2 64 - 1

/-- The significand after as many of the digits as fit, and the digits that are left. -/
def absorb (significand : Nat) : List Nat → Nat × List Nat
  | [] => (significand, [])
  | d :: digits =>
    if significand * 10 + d ≤ significandLimit then absorb (significand * 10 + d) digits
    else (significand, d :: digits)

/-- A power of ten up to the greatest that is in range. -/
def powerOfTen (n : Nat) : Float := Float.ofScientific 1 false n

/-- The greatest exponent of a power of ten that is in range. -/
def maxPower : Nat := 308

/-- The number divided by `10 ^ n`, in steps that are in range. -/
def scaleDown (x : Float) (n : Nat) : Float :=
  if n ≤ maxPower then x / powerOfTen n
  else if x == 0.0 then x
  else scaleDown (x / powerOfTen maxPower) (n - maxPower)
termination_by n
decreasing_by
  simp only [maxPower]
  simp only [maxPower] at *
  omega

/-- The significand times `10 ^ exponent`, unless it is too great. -/
def scale? (significand : Nat) (exponent : Int) : Option Float :=
  let x := significand.toUInt64.toFloat
  if exponent < 0 then some (scaleDown x exponent.natAbs)
  else if exponent.natAbs ≤ maxPower then
    let y := x * powerOfTen exponent.natAbs
    if y.isInf then none else some y
  else if significand = 0 then some x
  else none

/-- The greatest exponent that is taken at its value. -/
def exponentLimit : Nat := Nat.pow 2 31 - 1

namespace Numeral

/-- The magnitude in floating point. Digits of the whole that do not fit raise the exponent, digits
of the fraction that do not fit are dropped. -/
def magnitude? (n : Numeral) : Option Float :=
  let whole := absorb 0 n.whole
  let part := absorb whole.1 n.fraction
  let point : Int := whole.2.length - (n.fraction.length - part.2.length : Nat)
  match n.exponent with
  | none => scale? part.1 point
  | some (negative, digits) =>
    let e := Text.numberOf 10 digits
    if e ≤ exponentLimit then scale? part.1 (if negative then point - e else point + e)
    else if negative ∨ part.1 = 0 then some 0.0
    else none

/-- The value in floating point. -/
def floating? (n : Numeral) : Option Kind :=
  n.magnitude?.map fun x => .floating (if n.negative then -x else x).toBits

/-- The number is written as an integer of at most 64 bits. -/
def isWhole (n : Numeral) : Bool :=
  n.fraction.isEmpty && n.exponent.isNone && (absorb 0 n.whole).2.isEmpty

/-- The value: an integer, or a number in floating point; `none` if it is out of range. Negative
zero and negative integers beyond 64 bits with sign are in floating point. -/
def kind? (n : Numeral) : Option Kind :=
  let significand := (absorb 0 n.whole).1
  if n.isWhole ∧ (n.negative → 0 < significand ∧ significand ≤ Nat.pow 2 63) then
    some (.integer (if n.negative then -significand else significand))
  else n.floating?

end Numeral

/-- The sort of a value, unless the text is broken there or the value is none. -/
def Json.kind? : Json → Option Kind
  | .null => some .null
  | .bool b => some (.bool b)
  | .number n => n.kind?
  | .text s => s.map .text
  | .array _ => some .sequence
  | .object _ => some .map
  | .broken => none

end ApiStubs
