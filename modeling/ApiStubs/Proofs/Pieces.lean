import ApiStubs.Text.Literal

/-!
# Escaped text in pieces

Escaping is four replacements, each over the result of the one before. It comes to one pass that
cuts a text into pieces, each of which is written on its own; no piece starts or ends inside
another.

* `Piece`, `Piece.written`: an escape sequence, or a character that stands for itself;
* `pieces`: the pieces of a text;
* `escapeLiteral_eq_pieces`: the replacements are the one pass;
* `returnsPaired`: every carriage return has its line feed, so that no piece is a raw return.
-/

namespace ApiStubs.Text

/-- A unit of escaped text. -/
inductive Piece where
  | backslash
  | quote
  | lineBreak
  /-- A character that stands for itself. It may be a carriage return. -/
  | plain (c : Char) (h : c ≠ '\\' ∧ c ≠ '"' ∧ c ≠ '\n')
  deriving DecidableEq

/-- The piece as it stands in escaped text. -/
def Piece.written : Piece → List Char
  | .backslash => ['\\', '\\']
  | .quote => ['\\', '"']
  | .lineBreak => escapedNewline
  | .plain c _ => [c]

/-- The piece of a character that is no carriage return before a line feed. -/
def Piece.ofChar (c : Char) : Piece :=
  if hb : c = '\\' then .backslash
  else if hq : c = '"' then .quote
  else if hn : c = '\n' then .lineBreak
  else .plain c ⟨hb, hq, hn⟩

/-- The pieces of a text. A carriage return and its line feed are one. -/
def pieces : List Char → List Piece
  | [] => []
  | '\r' :: '\n' :: s => .lineBreak :: pieces s
  | c :: s => .ofChar c :: pieces s

/-! ### The replacements in one pass -/

/-- The first two replacements look at single characters. -/
def escapedMark (c : Char) : List Char :=
  if c = '\\' then ['\\', '\\'] else if c = '"' then ['\\', '"'] else [c]

theorem replaceAll_marks (s : List Char) :
    replaceAll ['"'] ['\\', '"'] (replaceAll ['\\'] ['\\', '\\'] s) = s.flatMap escapedMark := by
  rw [replaceAll_singleton, replaceAll_singleton, List.flatMap_assoc]
  congr 1
  funext c
  rw [escapedMark]
  split
  · simp
  · simp

/-- A line feed at the front was there before. -/
theorem head?_flatMap_escapedMark {s : List Char} (hs : s.head? ≠ some '\n') :
    (s.flatMap escapedMark).head? ≠ some '\n' := by
  cases s with
  | nil => simp
  | cons c s =>
    have hc : c ≠ '\n' := by simpa using hs
    rw [List.flatMap_cons, escapedMark]
    split
    · simp
    split
    · simp
    · simpa using hc

theorem replaceAll_pair (new s : List Char) :
    replaceAll ['\r', '\n'] new ('\r' :: '\n' :: s) = new ++ replaceAll ['\r', '\n'] new s := by
  simp [replaceAll, replaceFrom]

theorem replaceAll_pair_of_ne {c : Char} (hc : c ≠ '\r') (new s : List Char) :
    replaceAll ['\r', '\n'] new (c :: s) = c :: replaceAll ['\r', '\n'] new s := by
  refine replaceAll_cons_of_not_prefix ?_ new
  simp [List.cons_prefix_cons, Ne.symm hc]

theorem replaceAll_pair_return {s : List Char} (hs : s.head? ≠ some '\n') (new : List Char) :
    replaceAll ['\r', '\n'] new ('\r' :: s) = '\r' :: replaceAll ['\r', '\n'] new s := by
  refine replaceAll_cons_of_not_prefix ?_ new
  cases s with
  | nil => simp
  | cons d s =>
    have hd : d ≠ '\n' := by simpa using hs
    simp [List.cons_prefix_cons, Ne.symm hd]

theorem replaceAll_pair_append {s : List Char} (hs : '\r' ∉ s) (new t : List Char) :
    replaceAll ['\r', '\n'] new (s ++ t) = s ++ replaceAll ['\r', '\n'] new t := by
  induction s with
  | nil => rfl
  | cons c s ih =>
    obtain ⟨hc, hs⟩ := List.ne_and_not_mem_of_not_mem_cons hs
    rw [List.cons_append, replaceAll_pair_of_ne (Ne.symm hc), ih hs]
    rfl

/-- Between characters the third replacement sees no pair that was not there before. -/
theorem replaceAll_pair_mark {c : Char} {s : List Char}
    (h : c = '\r' → s.head? ≠ some '\n') (new : List Char) :
    replaceAll ['\r', '\n'] new ((c :: s).flatMap escapedMark) =
      escapedMark c ++ replaceAll ['\r', '\n'] new (s.flatMap escapedMark) := by
  rw [List.flatMap_cons, escapedMark]
  split
  · exact replaceAll_pair_append (by decide) new _
  split
  · exact replaceAll_pair_append (by decide) new _
  by_cases hr : c = '\r'
  · -- a line feed behind the return would have made them one piece
    subst hr
    exact replaceAll_pair_return (head?_flatMap_escapedMark (h rfl)) new
  · exact replaceAll_pair_of_ne hr new _

/-- What the last replacement makes of a character that the others have left or written. -/
def writtenBreak (c : Char) : List Char := if c = '\n' then escapedNewline else [c]

theorem flatMap_writtenBreak_escapedMark (c : Char) :
    (escapedMark c).flatMap writtenBreak = (Piece.ofChar c).written := by
  rw [escapedMark, Piece.ofChar]
  split
  · rfl
  split
  · rfl
  split
  · next h => subst h; rfl
  · next h => simp [writtenBreak, h, Piece.written]

theorem escapeLiteral_eq (s : List Char) :
    escapeLiteral s =
      (replaceAll ['\r', '\n'] escapedNewline (s.flatMap escapedMark)).flatMap writtenBreak := by
  rw [escapeLiteral, replaceAll_marks, replaceAll_singleton]
  rfl

/-- Escaping is one pass over the pieces of a text. -/
theorem escapeLiteral_eq_pieces (s : List Char) :
    escapeLiteral s = (pieces s).flatMap Piece.written := by
  rw [escapeLiteral_eq]
  induction s using pieces.induct with
  | case1 => rfl
  | case2 s ih =>
    have hm : ('\r' :: '\n' :: s).flatMap escapedMark = '\r' :: '\n' :: s.flatMap escapedMark := rfl
    rw [hm, replaceAll_pair, List.flatMap_append, ih]
    rfl
  | case3 c s hc ih =>
    have h : c = '\r' → s.head? ≠ some '\n' := by
      intro hr hs
      obtain ⟨t, rfl⟩ := List.head?_eq_some_iff.1 hs
      exact hc t hr rfl
    rw [replaceAll_pair_mark h, List.flatMap_append, ih, flatMap_writtenBreak_escapedMark,
      pieces.eq_3 c s hc, List.flatMap_cons]

/-! ### Carriage returns -/

/-- Every carriage return has its line feed behind it. -/
def returnsPaired : List Char → Bool
  | [] => true
  | '\r' :: '\n' :: s => returnsPaired s
  | c :: s => c != '\r' && returnsPaired s

theorem returnsPaired_of_not_mem {s : List Char} (hr : '\r' ∉ s) : returnsPaired s = true := by
  induction s with
  | nil => rfl
  | cons c s ih =>
    obtain ⟨hc, hs⟩ := List.ne_and_not_mem_of_not_mem_cons hr
    rw [returnsPaired.eq_3 c s fun t h => absurd h.symm hc, ih hs]
    simpa using Ne.symm hc

/-- The piece is a carriage return that stands for itself. -/
def Piece.isReturn : Piece → Bool
  | .plain c _ => c == '\r'
  | _ => false

theorem isReturn_ofChar (c : Char) : (Piece.ofChar c).isReturn = (c == '\r') := by
  rw [Piece.ofChar]
  split
  · next h => subst h; rfl
  split
  · next h => subst h; rfl
  split
  · next h => subst h; rfl
  · rfl

theorem any_isReturn_pieces (s : List Char) : (pieces s).any Piece.isReturn = !returnsPaired s := by
  induction s using pieces.induct with
  | case1 => rfl
  | case2 s ih => simpa [pieces, returnsPaired, Piece.isReturn] using ih
  | case3 c s hc ih =>
    rw [pieces.eq_3 c s hc, returnsPaired.eq_3 c s hc, List.any_cons, isReturn_ofChar, ih]
    simp [bne]

end ApiStubs.Text
