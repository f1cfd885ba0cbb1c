import ApiStubs.Proofs.EscapedReading
import Mathlib.Algebra.Ring.Parity

/-!
# Decoding escaped text

Escaping replaces four times, each time in the result of the time before. No replacement touches
what an earlier one has written, so all of them come to one pass over the text, and the result is
decoded without doubt: every quote in it is escaped, and only the form of line breaks is lost.

* `escapeOnce`: the one pass;
* `singleBreaks`: a text with a line feed in place of every carriage return and its line feed;
* `backslashRun`: the number of backslashes at the end of a text, which tells whether what follows
  is escaped;
* `map_shown_pieces`: the pieces of a text show it with single line breaks;
* `exists_front_of_quote`: a quote in escaped text has its backslash behind whole pieces;
* `escapeLiteral_one_pass`: escaping is the one pass, and is undone by reading a literal.
-/

namespace ApiStubs.Text

/-! ### One pass -/

/-- What a character is written as, unless it is a carriage return right before a line feed. -/
def escapedChar (c : Char) : List Char :=
  if c = '\\' then ['\\', '\\']
  else if c = '"' then ['\\', '"']
  else if c = '\n' then ['\\', 'r', '\\', 'n']
  else [c]

/-- The text escaped from left to right. A carriage return and its line feed are one line break. -/
def escapeOnce : List Char → List Char
  | [] => []
  | '\r' :: '\n' :: s => ['\\', 'r', '\\', 'n'] ++ escapeOnce s
  | c :: s => escapedChar c ++ escapeOnce s

theorem written_ofChar (c : Char) : (Piece.ofChar c).written = escapedChar c := by
  rw [Piece.ofChar, escapedChar]
  split
  · rfl
  split
  · rfl
  split
  · rfl
  · rfl

theorem escapeOnce_eq_pieces (s : List Char) : escapeOnce s = (pieces s).flatMap Piece.written := by
  induction s using pieces.induct with
  | case1 => rfl
  | case2 s ih =>
    rw [escapeOnce, ih]
    rfl
  | case3 c s hc ih =>
    rw [escapeOnce.eq_3 c s hc, pieces.eq_3 c s hc, List.flatMap_cons, written_ofChar, ih]

/-! ### Line breaks -/

/-- The text with a line feed in place of every carriage return and its line feed. -/
def singleBreaks (s : List Char) : List Char := replaceAll ['\r', '\n'] ['\n'] s

/-- A piece is known by what it shows. -/
theorem ofChar_shown (p : Piece) : Piece.ofChar p.shown = p := by
  cases p with
  | backslash => rfl
  | quote => rfl
  | lineBreak => rfl
  | plain c h =>
    obtain ⟨hb, hq, hn⟩ := h
    simp [Piece.shown, Piece.ofChar, hb, hq, hn]

theorem map_shown_pieces (s : List Char) : (pieces s).map Piece.shown = singleBreaks s := by
  unfold singleBreaks
  induction s using pieces.induct with
  | case1 => rfl
  | case2 s ih =>
    rw [replaceAll_pair, ← ih]
    rfl
  | case3 c s hc ih =>
    rw [pieces.eq_3 c s hc, List.map_cons, shown_ofChar, ih]
    by_cases hr : c = '\r'
    · -- the return has no line feed behind it
      subst hr
      refine (replaceAll_pair_return (fun hs => ?_) _).symm
      obtain ⟨t, rfl⟩ := List.head?_eq_some_iff.1 hs
      exact hc t rfl rfl
    · exact (replaceAll_pair_of_ne hr _ s).symm

/-- The pieces of a text depend on its single line breaks alone. -/
theorem pieces_eq_map_singleBreaks (s : List Char) :
    pieces s = (singleBreaks s).map Piece.ofChar := by
  rw [← map_shown_pieces, List.map_map]
  conv => lhs; rw [← List.map_id (pieces s)]
  exact List.map_congr_left fun p _ => (ofChar_shown p).symm

/-! ### Quotes -/

/-- The number of backslashes at the end of a text. -/
def backslashRun (s : List Char) : Nat := (s.rtakeWhile (· == '\\')).length

theorem backslashRun_concat (s : List Char) (c : Char) :
    backslashRun (s ++ [c]) = if c = '\\' then backslashRun s + 1 else 0 := by
  unfold backslashRun
  rw [List.rtakeWhile_concat]
  by_cases hc : c = '\\'
  · simp [hc]
  · simp [hc]

theorem backslashRun_append {t : List Char} {c : Char} (ht : t.getLast? = some c) (hc : c ≠ '\\')
    (s : List Char) : backslashRun (s ++ t) = 0 := by
  obtain ⟨front, rfl⟩ := List.getLast?_eq_some_iff.1 ht
  rw [← List.append_assoc, backslashRun_concat, if_neg hc]

/-- Whole pieces end in an even number of backslashes, so that they escape nothing behind them. -/
theorem even_backslashRun_written (ps : List Piece) :
    Even (backslashRun (ps.flatMap Piece.written)) := by
  induction ps using List.reverseRecOn with
  | nil => exact Even.zero
  | append_singleton ps p ih =>
    rw [List.flatMap_append, List.flatMap_singleton]
    cases p with
    | backslash =>
      have hpair : ps.flatMap Piece.written ++ Piece.written .backslash =
          ps.flatMap Piece.written ++ ['\\'] ++ ['\\'] := by simp [Piece.written]
      rw [hpair, backslashRun_concat, backslashRun_concat, if_pos rfl, if_pos rfl]
      exact ih.add (by decide : Even 2)
    | quote =>
      rw [backslashRun_append rfl (by decide)]
      exact Even.zero
    | lineBreak =>
      rw [backslashRun_append rfl (by decide)]
      exact Even.zero
    | plain c h =>
      rw [backslashRun_append rfl h.1]
      exact Even.zero

/-- The one quote in a piece has its backslash in front of it. -/
theorem eq_of_written_eq {p : Piece} {before after : List Char}
    (h : p.written = before ++ '"' :: after) : before = ['\\'] := by
  have hmem : '"' ∈ p.written := by rw [h]; simp
  cases p with
  | backslash => exact absurd hmem (by decide)
  | quote =>
    match before, h with
    | [b], h => exact congrArg (fun c => [c]) (List.cons.inj h).1.symm
    | b :: c :: before, h => simp [Piece.written] at h
  | lineBreak => exact absurd hmem (by decide)
  | plain c hc => exact absurd (List.mem_singleton.1 hmem).symm hc.2.1

theorem exists_front_of_quote {ps : List Piece} {before after : List Char}
    (h : ps.flatMap Piece.written = before ++ '"' :: after) :
    ∃ front : List Piece, before = front.flatMap Piece.written ++ ['\\'] := by
  induction ps generalizing before with
  | nil => simp at h
  | cons p ps ih =>
    rw [List.flatMap_cons] at h
    rcases List.append_eq_append_iff.1 h with ⟨more, hbefore, hrest⟩ | ⟨more, hp, hquote⟩
    · obtain ⟨front, hfront⟩ := ih hrest
      exact ⟨p :: front, by rw [hbefore, hfront, List.flatMap_cons, List.append_assoc]⟩
    · cases more with
      | nil =>
        obtain ⟨front, hfront⟩ := @ih [] hquote.symm
        simp at hfront
      | cons c more =>
        obtain ⟨rfl, -⟩ := List.cons.inj hquote
        exact ⟨[], eq_of_written_eq hp⟩

/-- Every quote in escaped text is behind an odd number of backslashes. -/
theorem odd_backslashRun_of_quote {s before after : List Char}
    (h : escapeLiteral s = before ++ '"' :: after) : Odd (backslashRun before) := by
  rw [escapeLiteral_eq_pieces] at h
  obtain ⟨front, rfl⟩ := exists_front_of_quote h
  rw [backslashRun_concat, if_pos rfl]
  exact (even_backslashRun_written front).add_one

theorem lineFeed_notMem_escapeLiteral (s : List Char) : '\n' ∉ escapeLiteral s := by
  rw [escapeLiteral_eq_pieces, List.mem_flatMap]
  rintro ⟨p, -, hp⟩
  cases p with
  | backslash => exact absurd hp (by decide)
  | quote => exact absurd hp (by decide)
  | lineBreak => exact absurd hp (by decide)
  | plain c h => exact h.2.2 (List.mem_singleton.1 hp).symm

/-! ### Decoding -/

/-- Escaped text is read as the text with single line breaks. -/
theorem readLiteral?_escapeLiteral (s rest : List Char) :
    readLiteral? (escapeLiteral s ++ '"' :: rest) = some (singleBreaks s, rest) := by
  rw [escapeLiteral_eq_pieces, readLiteral?_pieces, map_shown_pieces]

theorem escapeLiteral_congr {s t : List Char} (h : singleBreaks s = singleBreaks t) :
    escapeLiteral s = escapeLiteral t := by
  rw [escapeLiteral_eq_pieces, escapeLiteral_eq_pieces, pieces_eq_map_singleBreaks, h,
    ← pieces_eq_map_singleBreaks]

/-- Escaping is one pass from left to right. Its result holds no line feed, and no quote that is not
escaped. As a literal it is read up to its closing quote, as the text with single line breaks. So
two texts are escaped alike exactly if they differ in the form of their line breaks at most. -/
theorem escapeLiteral_one_pass (s : List Char) :
    escapeLiteral s = escapeOnce s ∧
      '\n' ∉ escapeLiteral s ∧
      (∀ before after, escapeLiteral s = before ++ '"' :: after → Odd (backslashRun before)) ∧
      (∀ rest, readLiteral? (escapeLiteral s ++ '"' :: rest) = some (singleBreaks s, rest)) ∧
      ∀ t, escapeLiteral s = escapeLiteral t ↔ singleBreaks s = singleBreaks t := by
  refine ⟨?_, lineFeed_notMem_escapeLiteral s, fun _ _ => odd_backslashRun_of_quote,
    readLiteral?_escapeLiteral s, fun t => ⟨fun h => ?_, escapeLiteral_congr⟩⟩
  · rw [escapeLiteral_eq_pieces, escapeOnce_eq_pieces]
  · have hs := readLiteral?_escapeLiteral s []
    rw [h, readLiteral?_escapeLiteral t []] at hs
    exact (congrArg Prod.fst (Option.some.inj hs)).symm

end ApiStubs.Text
