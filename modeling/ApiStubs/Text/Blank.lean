import ApiStubs.Text.CodeRange

/-!
# Blank characters

The Unicode property `White_Space`, and trimming by it.

* `isBlank`, `allBlank`: the test on a character and on a text;
* `trimStart`, `trim`: blanks dropped at the front, and at both ends.
-/

namespace ApiStubs.Text

/-- The code points with the property `White_Space`. -/
def blankRanges : List (Nat × Nat) :=
  [(0x9, 0xD), (0x20, 0x20), (0x85, 0x85), (0xA0, 0xA0), (0x1680, 0x1680), (0x2000, 0x200A),
   (0x2028, 0x2029), (0x202F, 0x202F), (0x205F, 0x205F), (0x3000, 0x3000)]

/-- A character of white space, in any script. -/
def isBlank (c : Char) : Bool := inRanges blankRanges c

/-- Nothing but blanks; the empty text included. -/
def allBlank (s : List Char) : Bool := s.all isBlank

/-- The text without the blanks it starts with. -/
def trimStart (s : List Char) : List Char := s.dropWhile isBlank

/-- The text without the blanks at either end. -/
def trim (s : List Char) : List Char := (trimStart (trimStart s).reverse).reverse

@[simp] theorem allBlank_nil : allBlank [] = true := rfl

@[simp] theorem allBlank_cons (c : Char) (s : List Char) :
    allBlank (c :: s) = (isBlank c && allBlank s) := rfl

theorem allBlank_append (s t : List Char) : allBlank (s ++ t) = (allBlank s && allBlank t) := by
  simp [allBlank]

end ApiStubs.Text
