/-!
# Shortest decimals

The decimal with the fewest digits that lies among the reals which round to a given binary floating
point number; of two such with equally many digits the nearer one, at a tie the even one.

* `Binary`: a positive number as an integer times a power of two, with its rounding interval;
* `Binary.ofBits`: the magnitude of a number of 64 bits;
* `Binary.shortest`: its digits, as an integer, and the power of ten of the first digit.

All comparisons are between integers; nothing is rounded on the way.
-/

namespace ApiStubs.Decimal

/-- The number `significand * 2 ^ exponent`. -/
structure Binary where
  significand : Nat
  exponent : Int
  /-- The neighbour below is only half as far away as the one above. -/
  narrowBelow : Bool
  deriving DecidableEq, Repr

/-- A non-negative fraction. -/
structure Fraction where
  num : Nat
  den : Nat
  deriving DecidableEq, Repr

/-- `n * base ^ e`. -/
def Fraction.scaled (n base : Nat) (e : Int) : Fraction :=
  if 0 ≤ e then ⟨n * Nat.pow base e.toNat, 1⟩ else ⟨n, Nat.pow base (-e).toNat⟩

def Fraction.le (a b : Fraction) : Bool := decide (a.num * b.den ≤ b.num * a.den)

def Fraction.lt (a b : Fraction) : Bool := decide (a.num * b.den < b.num * a.den)

namespace Binary

/-- The magnitude that the bits of a finite number of 64 bits hold. -/
def ofBits (bits : UInt64) : Binary :=
  let field := ((bits >>> 52) &&& 0x7FF).toNat
  let low := (bits &&& 0xFFFFFFFFFFFFF).toNat
  if field = 0 then ⟨low, -1074, false⟩
  else ⟨low + Nat.pow 2 52, field - 1075, low == 0 && decide (1 < field)⟩

/-- The number itself. -/
def value (b : Binary) : Fraction := .scaled (4 * b.significand) 2 (b.exponent - 2)

/-- The end of the rounding interval below the number. -/
def lower (b : Binary) : Fraction :=
  .scaled (4 * b.significand - if b.narrowBelow then 1 else 2) 2 (b.exponent - 2)

/-- The end of the rounding interval above the number. -/
def upper (b : Binary) : Fraction := .scaled (4 * b.significand + 2) 2 (b.exponent - 2)

/-- The fraction rounds to the number. The ends do if the significand is even. -/
def rounds (b : Binary) (x : Fraction) : Bool :=
  if b.significand % 2 = 0 then b.lower.le x && x.le b.upper
  else b.lower.lt x && x.lt b.upper

/-- The least `t` in a range that makes `num * Nat.pow 10 t` reach `den`. -/
def leadingZeros (num den : Nat) : Nat → Nat → Nat
  | 0, t => t
  | fuel + 1, t => if den ≤ num * Nat.pow 10 t then t else leadingZeros num den fuel (t + 1)

/-- The power of ten of the first digit of a positive fraction. -/
def magnitude (x : Fraction) : Int :=
  if x.den ≤ x.num then (Nat.toDigits 10 (x.num / x.den)).length - 1
  else - leadingZeros x.num x.den 400 1

/-- The distance of two fractions, over their common denominator. -/
def distance (x y : Fraction) : Nat :=
  (x.num * y.den - y.num * x.den) + (y.num * x.den - x.num * y.den)

/-- The best decimal with `count` digits whose first has the power `top`, or the power of ten after
the last of these, if any rounds to the number. -/
def withDigits? (b : Binary) (top : Int) (count : Nat) : Option Nat :=
  let last := top - (count - 1 : Nat)
  let x := b.value
  let step := Fraction.scaled 1 10 last
  let k := x.num * step.den / (x.den * step.num)
  let below := Fraction.scaled k 10 last
  let above := Fraction.scaled (k + 1) 10 last
  if b.rounds below then
    if b.rounds above then
      let toBelow := distance x below
      let toAbove := distance x above
      if toBelow < toAbove ∨ (toBelow = toAbove ∧ k % 2 = 0) then some k else some (k + 1)
    else some k
  else if b.rounds above then some (k + 1)
  else none

/-- The shortest decimal `k * 10 ^ e`, as `k` and `e`. More and more digits are tried, up to
seventeen. -/
def search (b : Binary) (top : Int) : Nat → Nat → Nat × Int
  | 0, count => ((b.withDigits? top count).getD 0, top - (count - 1 : Nat))
  | more + 1, count =>
    match b.withDigits? top count with
    | some k => (k, top - (count - 1 : Nat))
    | none => search b top more (count + 1)

/-- The digits of a number without the zeros at its end. -/
def significantDigits (k : Nat) : List Char :=
  ((Nat.toDigits 10 k).reverse.dropWhile (· == '0')).reverse

/-- The digits of the shortest decimal and the power of ten of the first. That is one above the
magnitude of the number if the decimal is the next power of ten. -/
def shortest (b : Binary) : List Char × Int :=
  let decimal := b.search (magnitude b.value) 16 1
  (significantDigits decimal.1, decimal.2 + ((Nat.toDigits 10 decimal.1).length - 1 : Nat))

end Binary

end ApiStubs.Decimal
