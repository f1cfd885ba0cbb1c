import ApiStubs.Fragment.Inline
import ApiStubs.Proofs.Pieces
import Mathlib.Data.List.DropRight

/-!
# Running text in pieces

The escaped running text of a fragment is a sequence of pieces: those of its texts, those of the
list item marks, and a line break for the end of each block. Dropping line breaks at the very end
drops whole pieces, since no other piece ends the way a line break does.

* `trimEndOf_append_self`, `trimEndOf_of_not_suffix`: the copies of a pattern at the end of a text;
* `trimEndOf_flatMap`: dropping line breaks from pieces, in whatever way they are written;
* `Event.pieces`: the pieces that an event adds;
* `inlineText_escaped`: the escaped running text of events.
-/

namespace ApiStubs.Fragment

open Text

/-! ### Dropping a pattern at the end -/

theorem dropRepeated_append {pattern : List Char} (hp : pattern ≠ []) (s : List Char) :
    dropRepeated pattern (pattern ++ s) = dropRepeated pattern s := by
  have hlt : s.length < (pattern ++ s).length := by
    simpa using List.length_pos_iff.2 hp
  rw [dropRepeated, stripPrefix?_eq_some_iff.2 rfl]
  exact if_pos hlt

theorem trimEndOf_append_self {pattern : List Char} (hp : pattern ≠ []) (s : List Char) :
    trimEndOf pattern (s ++ pattern) = trimEndOf pattern s := by
  have hr : pattern.reverse ≠ [] := by simpa using hp
  rw [trimEndOf, List.reverse_append, dropRepeated_append hr, trimEndOf]

theorem trimEndOf_of_not_suffix {pattern s : List Char} (h : ¬pattern <:+ s) :
    trimEndOf pattern s = s := by
  have hn : stripPrefix? pattern.reverse s.reverse = none := by
    rw [Option.eq_none_iff_forall_ne_some]
    intro rest hr
    have hp : pattern.reverse <+: s.reverse := ⟨rest, (stripPrefix?_eq_some_iff.1 hr).symm⟩
    exact h (List.reverse_prefix.1 hp)
  rw [trimEndOf, dropRepeated, hn, List.reverse_reverse]

theorem trimEndOf_concat_of_ne {c d : Char} (h : c ≠ d) (pattern s : List Char) :
    trimEndOf (pattern ++ [c]) (s ++ [d]) = s ++ [d] := by
  refine trimEndOf_of_not_suffix ?_
  rintro ⟨t, ht⟩
  rw [← List.append_assoc] at ht
  exact h (List.append_singleton_inj.1 ht).2

/-- The piece is a line break. -/
def isBreak (p : Piece) : Bool := p == .lineBreak

/-- If only a line break ends the way a line break does, then line breaks at the end are dropped
as whole pieces. -/
theorem trimEndOf_flatMap {write : Piece → List Char} (hne : write .lineBreak ≠ [])
    (hs : ∀ ps p, write .lineBreak <:+ (ps ++ [p]).flatMap write → p = .lineBreak)
    (ps : List Piece) :
    trimEndOf (write .lineBreak) (ps.flatMap write) = (ps.rdropWhile isBreak).flatMap write := by
  induction ps using List.reverseRecOn with
  | nil => exact trimEndOf_of_not_suffix (by simpa using hne)
  | append_singleton ps p ih =>
    by_cases hp : p = .lineBreak
    · subst hp
      rw [List.flatMap_append, List.flatMap_singleton, trimEndOf_append_self hne, ih,
        List.rdropWhile_concat_pos _ _ _ rfl]
    · rw [trimEndOf_of_not_suffix fun h => hp (hs ps p h),
        List.rdropWhile_concat_neg _ _ _ (by simpa [isBreak] using hp)]

/-- No other piece ends the way a line break is written: an `n` that stands for itself would
need a backslash before it that stands for itself too. -/
theorem eq_lineBreak_of_suffix_written (ps : List Piece) (p : Piece)
    (h : Piece.written .lineBreak <:+ (ps ++ [p]).flatMap Piece.written) : p = .lineBreak := by
  rw [← List.reverse_prefix, List.flatMap_append, List.reverse_append, List.flatMap_singleton] at h
  cases p with
  | backslash => simp [Piece.written, escapedNewline] at h
  | quote => simp [Piece.written, escapedNewline] at h
  | lineBreak => rfl
  | plain c hc =>
    -- `c` is the `n`, and the piece before it ends with the backslash
    rcases ps.eq_nil_or_concat with rfl | ⟨ps, q, rfl⟩
    · simp [Piece.written, escapedNewline] at h
    rw [List.concat_eq_append, List.flatMap_append, List.reverse_append,
      List.flatMap_singleton] at h
    cases q with
    | backslash => simp [Piece.written, escapedNewline] at h
    | quote => simp [Piece.written, escapedNewline] at h
    | lineBreak => simp [Piece.written, escapedNewline] at h
    | plain d hd =>
      have : d = '\\' := by
        simp only [Piece.written, escapedNewline, List.reverse_cons, List.reverse_nil,
          List.nil_append, List.cons_append, List.cons_prefix_cons] at h
        exact h.2.1.symm
      exact absurd this hd.1

/-! ### The pieces of events -/

/-- The pieces that an event adds to the escaped running text. -/
def Event.pieces : Event → List Piece
  | .start name _ => if name = "li" then Text.pieces listItemMarker.toList else []
  | .stop name => if blockElements.contains name then [.lineBreak] else []
  | .text content => Text.pieces content.toList

theorem inline_escaped (e : Event) : e.inline .escaped = e.pieces.flatMap Piece.written := by
  cases e with
  | start name selfClosing =>
    rw [Event.inline, Event.pieces]
    split
    · rfl
    · rfl
  | stop name =>
    rw [Event.inline, Event.pieces]
    split
    · simp [InlineStyle.escaped, Piece.written]
    · rfl
  | text content => exact escapeLiteral_eq_pieces content.toList

/-- The pieces are those of the plain running text. -/
theorem pieces_inline (e : Event) : Text.pieces (e.inline .plain) = e.pieces := by
  cases e with
  | start name selfClosing =>
    rw [Event.inline, Event.pieces]
    split
    · rfl
    · rfl
  | stop name =>
    rw [Event.inline, Event.pieces]
    split
    · rfl
    · rfl
  | text content => rfl

/-- The escaped running text of events is written piece by piece, without line breaks at the
end. -/
theorem inlineText_escaped (events : List Event) :
    inlineText .escaped events =
      String.ofList (((events.flatMap Event.pieces).rdropWhile isBreak).flatMap Piece.written) := by
  have he : events.flatMap (Event.inline .escaped) =
      (events.flatMap Event.pieces).flatMap Piece.written := by
    rw [List.flatMap_assoc]
    exact List.flatMap_congr fun e _ => inline_escaped e
  have hn : InlineStyle.escaped.newline.toList = Piece.written .lineBreak := by
    simp [InlineStyle.escaped, Piece.written]
  rw [inlineText, he, hn,
    trimEndOf_flatMap (by simp [Piece.written, escapedNewline]) eq_lineBreak_of_suffix_written]

end ApiStubs.Fragment
