import ApiStubs.Decimal.Shortest

/-!
# Writing decimals

* `Layout`: where positional notation ends;
* `Layout.write`: a decimal, by its digits and the power of ten of the first;
* `Layout.writeBits`: the shortest decimal of a number of 64 bits.
-/

namespace ApiStubs.Decimal

/-- The decisions of a notation for decimals. -/
structure Layout where
  /-- The powers of ten of the first digit between which no exponent is written. -/
  lowest : Int
  highest : Int
  deriving DecidableEq, Repr

/-- Digits with a point after the first `count`; a zero stands where there would be no digit. -/
def withPoint (count : Nat) (digits : List Char) : List Char :=
  let tail := digits.drop count
  digits.take count ++ List.replicate (count - digits.length) '0' ++
    '.' :: if tail.isEmpty then ['0'] else tail

/-- The decimal with these digits, the first of which has the power `top`. An exponent always has a
sign. -/
def Layout.write (layout : Layout) (digits : List Char) (top : Int) : List Char :=
  if top < layout.lowest ∨ layout.highest < top then
    let mantissa := digits.take 1 ++ if digits.length ≤ 1 then [] else '.' :: digits.drop 1
    mantissa ++ 'e' :: (if top < 0 then '-' else '+') :: Nat.toDigits 10 top.natAbs
  else if top < 0 then '0' :: '.' :: List.replicate (top.natAbs - 1) '0' ++ digits
  else withPoint (top.toNat + 1) digits

/-- The shortest decimal of a finite number, with the sign also of zero. -/
def Layout.writeBits (layout : Layout) (bits : UInt64) : List Char :=
  let sign := if bits >>> 63 = 0 then [] else ['-']
  let b := Binary.ofBits bits
  sign ++
    if b.significand = 0 then layout.write ['0'] 0
    else layout.write b.shortest.1 b.shortest.2

end ApiStubs.Decimal
