import ApiStubs.Proofs.Pieces
import ApiStubs.Text.Blank

/-!
# Reading string literals in code

A literal stands between double quotes and ends at the first quote that is not escaped. Its escape
sequences are those of the backslash, the quote, the carriage return and the line feed, and it holds
no raw line feed or carriage return.

* `CodeToken`, `codeTokens`: code as literals and single marks, without blanks;
* `Piece.value`: what a piece of escaped text means inside a literal;
* `codeTokensFrom_pieces`: a literal with escaped text inside, read if no piece is a raw return;
* `pairedBreaks`: a text with every line break as carriage return and line feed.
-/

namespace ApiStubs.Text

/-- A lexical unit of code. -/
inductive CodeToken where
  | mark (c : Char)
  | literal (value : List Char)
  deriving DecidableEq

/-- What an escape sequence means, by the character behind the backslash. -/
def escapeValue? : Char → Option Char
  | '\\' => some '\\'
  | '"' => some '"'
  | 'r' => some '\r'
  | 'n' => some '\n'
  | _ => none

/-- `codeTokens` outside a literal, or inside one of which the value so far is given, last
character first. -/
def codeTokensFrom : Option (List Char) → List Char → Option (List CodeToken)
  | none, [] => some []
  | none, c :: s =>
    if c = '"' then codeTokensFrom (some []) s
    else if isBlank c then codeTokensFrom none s
    else (codeTokensFrom none s).map (.mark c :: ·)
  | some _, [] => none
  | some value, '\\' :: c :: s =>
    (escapeValue? c).bind fun d => codeTokensFrom (some (d :: value)) s
  | some value, c :: s =>
    if c = '"' then (codeTokensFrom none s).map (.literal value.reverse :: ·)
    else if c = '\n' ∨ c = '\r' ∨ c = '\\' then none
    else codeTokensFrom (some (c :: value)) s

/-- The literals and marks of code, unless a literal in it is malformed. -/
def codeTokens (s : List Char) : Option (List CodeToken) := codeTokensFrom none s

theorem codeTokensFrom_blank {c : Char} (hq : c ≠ '"') (hb : isBlank c = true) (s : List Char) :
    codeTokensFrom none (c :: s) = codeTokensFrom none s := by
  rw [codeTokensFrom, if_neg hq, if_pos hb]

theorem codeTokensFrom_mark {c : Char} (hq : c ≠ '"') (hb : isBlank c = false) (s : List Char) :
    codeTokensFrom none (c :: s) = (codeTokensFrom none s).map (.mark c :: ·) := by
  rw [codeTokensFrom, if_neg hq, if_neg (by simp [hb])]

theorem codeTokensFrom_quote (s : List Char) :
    codeTokensFrom none ('"' :: s) = codeTokensFrom (some []) s := by
  rw [codeTokensFrom, if_pos rfl]

theorem codeTokensFrom_spaces (n : Nat) (s : List Char) :
    codeTokensFrom none (List.replicate n ' ' ++ s) = codeTokensFrom none s := by
  induction n with
  | zero => rfl
  | succ n ih =>
    rw [List.replicate_succ, List.cons_append, codeTokensFrom_blank (by decide) (by decide), ih]

/-! ### Escaped text inside a literal -/

/-- What a piece means inside a literal. -/
def Piece.value : Piece → List Char
  | .backslash => ['\\']
  | .quote => ['"']
  | .lineBreak => ['\r', '\n']
  | .plain c _ => [c]

theorem codeTokensFrom_piece {p : Piece} (hp : p.isReturn = false) (value s : List Char) :
    codeTokensFrom (some value) (p.written ++ s) =
      codeTokensFrom (some (p.value.reverse ++ value)) s := by
  cases p with
  | backslash => simp [Piece.written, Piece.value, codeTokensFrom, escapeValue?]
  | quote => simp [Piece.written, Piece.value, codeTokensFrom, escapeValue?]
  | lineBreak => simp [Piece.written, Piece.value, codeTokensFrom, escapeValue?, escapedNewline]
  | plain c h =>
    have hr : c ≠ '\r' := by simpa [Piece.isReturn] using hp
    obtain ⟨hb, hq, hn⟩ := h
    show codeTokensFrom (some value) (c :: s) = codeTokensFrom (some (c :: value)) s
    rw [codeTokensFrom.eq_5 _ _ _ fun d t hd => absurd hd hb, if_neg hq,
      if_neg (by simp [hb, hr, hn])]

theorem codeTokensFrom_return {p : Piece} (hp : p.isReturn = true) (value s : List Char) :
    codeTokensFrom (some value) (p.written ++ s) = none := by
  cases p with
  | plain c h =>
    obtain rfl : c = '\r' := by simpa [Piece.isReturn] using hp
    simp [Piece.written, codeTokensFrom]
  | _ => cases hp

/-- Escaped text is read up to the closing quote, as what its pieces mean, unless one of them is
a raw return. -/
theorem codeTokensFrom_pieces (ps : List Piece) (value s : List Char) :
    codeTokensFrom (some value) (ps.flatMap Piece.written ++ '"' :: s) =
      if ps.any Piece.isReturn then none
      else (codeTokensFrom none s).map
        (.literal (value.reverse ++ ps.flatMap Piece.value) :: ·) := by
  induction ps generalizing value with
  | nil => simp [codeTokensFrom]
  | cons p ps ih =>
    rw [List.flatMap_cons, List.append_assoc]
    cases hp : p.isReturn with
    | true => simp [codeTokensFrom_return hp, hp]
    | false => simp [codeTokensFrom_piece hp, ih, hp]

/-! ### Line breaks as carriage return and line feed -/

/-- The text with every line break, in any of its three forms, as carriage return and line feed. -/
def pairedBreaks : List Char → List Char
  | [] => []
  | '\r' :: '\n' :: s => '\r' :: '\n' :: pairedBreaks s
  | c :: s => (if c = '\r' ∨ c = '\n' then ['\r', '\n'] else [c]) ++ pairedBreaks s

theorem pairedBreaks_cons {c : Char} (hc : c ≠ '\r') (s : List Char) :
    pairedBreaks (c :: s) = (if c = '\n' then ['\r', '\n'] else [c]) ++ pairedBreaks s := by
  rw [pairedBreaks.eq_3 c s fun t h => absurd h hc]
  simp [hc]

theorem pairedBreaks_of_not_mem {s : List Char} (hr : '\r' ∉ s) (hn : '\n' ∉ s) :
    pairedBreaks s = s := by
  induction s with
  | nil => rfl
  | cons c s ih =>
    obtain ⟨hcr, hr⟩ := List.ne_and_not_mem_of_not_mem_cons hr
    obtain ⟨hcn, hn⟩ := List.ne_and_not_mem_of_not_mem_cons hn
    rw [pairedBreaks_cons (Ne.symm hcr), if_neg (Ne.symm hcn), ih hr hn]
    rfl

/-- A text that does not end in a lone return is cut anywhere without harm to its line breaks. -/
theorem pairedBreaks_append {s : List Char} (hs : returnsPaired s = true) (t : List Char) :
    pairedBreaks (s ++ t) = pairedBreaks s ++ pairedBreaks t := by
  induction s using returnsPaired.induct with
  | case1 => rfl
  | case2 s ih =>
    have h : pairedBreaks (s ++ t) = pairedBreaks s ++ pairedBreaks t := ih hs
    simp [pairedBreaks, h]
  | case3 c s hc ih =>
    rw [returnsPaired.eq_3 c s hc, Bool.and_eq_true, bne_iff_ne] at hs
    rw [List.cons_append, pairedBreaks_cons hs.1, pairedBreaks_cons hs.1, ih hs.2,
      List.append_assoc]

theorem value_ofChar {c : Char} :
    (Piece.ofChar c).value = if c = '\n' then ['\r', '\n'] else [c] := by
  rw [Piece.ofChar]
  split
  · next h => subst h; rfl
  split
  · next h => subst h; rfl
  split
  · rfl
  · rfl

/-- The pieces of a text without lone returns mean the text with its line breaks paired. -/
theorem flatMap_value_pieces {s : List Char} (hs : returnsPaired s = true) :
    (pieces s).flatMap Piece.value = pairedBreaks s := by
  induction s using returnsPaired.induct with
  | case1 => rfl
  | case2 s ih =>
    have h : (pieces s).flatMap Piece.value = pairedBreaks s := ih hs
    simp [pieces, pairedBreaks, Piece.value, h]
  | case3 c s hc ih =>
    rw [returnsPaired.eq_3 c s hc, Bool.and_eq_true, bne_iff_ne] at hs
    rw [pieces.eq_3 c s hc, List.flatMap_cons, value_ofChar, pairedBreaks_cons hs.1, ih hs.2]

/-- Only a line break means something that ends as a paired line break does. -/
theorem eq_lineBreak_of_suffix_value (ps : List Piece) (p : Piece)
    (h : Piece.value .lineBreak <:+ (ps ++ [p]).flatMap Piece.value) : p = .lineBreak := by
  rw [← List.reverse_prefix, List.flatMap_append, List.reverse_append, List.flatMap_singleton] at h
  cases p with
  | backslash => simp [Piece.value] at h
  | quote => simp [Piece.value] at h
  | lineBreak => rfl
  | plain c hc =>
    have : c = '\n' := by
      simp only [Piece.value, List.reverse_cons, List.reverse_nil, List.nil_append,
        List.cons_append, List.cons_prefix_cons] at h
      exact h.1.symm
    exact absurd this hc.2.2

end ApiStubs.Text
