/-!
# Digits

* `digitValue?`, `digitOf?`: the value of a digit, and of a digit in a base up to sixteen;
* `digitsOf?`: the values of a run of digits;
* `numberOf`: the number that digits write.
-/

namespace ApiStubs.Text

/-- The value of a digit in any base up to sixteen. -/
def digitValue? (c : Char) : Option Nat :=
  if '0' ≤ c ∧ c ≤ '9' then some (c.toNat - '0'.toNat)
  else if 'a' ≤ c ∧ c ≤ 'f' then some (c.toNat - 'a'.toNat + 10)
  else if 'A' ≤ c ∧ c ≤ 'F' then some (c.toNat - 'A'.toNat + 10)
  else none

/-- The value of a digit in the base. -/
def digitOf? (base : Nat) (c : Char) : Option Nat := (digitValue? c).filter (· < base)

/-- The values of the characters, if all are digits in the base. -/
def digitsOf? (base : Nat) (s : List Char) : Option (List Nat) := s.mapM (digitOf? base)

/-- The number that digits write in the base, the highest one first. -/
def numberOf (base : Nat) (digits : List Nat) : Nat := digits.foldl (fun n d => n * base + d) 0

end ApiStubs.Text
