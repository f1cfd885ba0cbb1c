import ApiStubs.Proofs.InlinePieces

/-!
# Reading escaped text

Running text is written in two styles: escaped on one line, or plain on several. Reading the
escaped text back gives the plain text, but for carriage returns: a return before a line feed is
written as part of the line break, and one on its own keeps the line feeds in front of it from being
dropped at the end.

* `readLiteral?`: what a literal stands for, and what follows its closing quote;
* `readLiteral?_pieces`: a literal that is written in pieces is read piece by piece;
* `settled`: a text without carriage returns, and then without line feeds at its end;
* `pieces_eq_map`: without returns a text has a piece for each character;
* `renderInline_escaped_plain`: the escaped running text of a fragment is read as the plain one.
-/

namespace ApiStubs.Text

/-! ### Literals -/

/-- What is left to read of a literal, with a character in front of what it stands for. -/
def withChar (c : Char) (read : Option (List Char × List Char)) : Option (List Char × List Char) :=
  read.map fun (value, rest) => (c :: value, rest)

/-- Reads the rest of a literal, whose opening quote has been read: what it stands for, and what
follows its closing quote. There is no other escape than these three, and no raw line feed. -/
def readLiteral? : List Char → Option (List Char × List Char)
  | [] => none
  | '"' :: rest => some ([], rest)
  | '\\' :: '\\' :: s => withChar '\\' (readLiteral? s)
  | '\\' :: '"' :: s => withChar '"' (readLiteral? s)
  | '\\' :: 'r' :: '\\' :: 'n' :: s => withChar '\n' (readLiteral? s)
  | c :: s => if c = '\\' ∨ c = '\n' then none else withChar c (readLiteral? s)

/-- The character that a piece of a literal stands for. -/
def Piece.shown : Piece → Char
  | .backslash => '\\'
  | .quote => '"'
  | .lineBreak => '\n'
  | .plain c _ => c

theorem readLiteral?_piece (p : Piece) (s : List Char) :
    readLiteral? (p.written ++ s) = withChar p.shown (readLiteral? s) := by
  cases p with
  | backslash => simp [Piece.written, readLiteral?, Piece.shown]
  | quote => simp [Piece.written, readLiteral?, Piece.shown]
  | lineBreak => simp [Piece.written, escapedNewline, readLiteral?, Piece.shown]
  | plain c h =>
    obtain ⟨hb, -, hn⟩ := h
    simp [Piece.written, readLiteral?, Piece.shown, hb, hn]

/-- A literal that is written in pieces ends at its closing quote. -/
theorem readLiteral?_pieces (ps : List Piece) (rest : List Char) :
    readLiteral? (ps.flatMap Piece.written ++ '"' :: rest) = some (ps.map Piece.shown, rest) := by
  induction ps with
  | nil => rfl
  | cons p ps ih =>
    rw [List.flatMap_cons, List.append_assoc, readLiteral?_piece, ih]
    rfl

theorem shown_ofChar (c : Char) : (Piece.ofChar c).shown = c := by
  rw [Piece.ofChar]
  split
  · next h => exact h.symm
  split
  · next h => exact h.symm
  split
  · next h => exact h.symm
  · rfl

/-! ### Carriage returns -/

/-- The text without carriage returns. -/
def withoutReturns (s : List Char) : List Char := s.filter (· != '\r')

/-- The text without carriage returns, and then without line feeds at its end. -/
def settled (s : List Char) : List Char := (withoutReturns s).rdropWhile (· == '\n')

theorem withoutReturns_append (s t : List Char) :
    withoutReturns (s ++ t) = withoutReturns s ++ withoutReturns t :=
  List.filter_append s t

theorem withoutReturns_cons (c : Char) (s : List Char) :
    withoutReturns (c :: s) = withoutReturns [c] ++ withoutReturns s :=
  withoutReturns_append [c] s

/-- The pieces of a text show it, but for the returns that are part of line breaks. -/
theorem withoutReturns_shown_pieces (s : List Char) :
    withoutReturns ((pieces s).map Piece.shown) = withoutReturns s := by
  induction s using pieces.induct with
  | case1 => rfl
  | case2 s ih =>
    show withoutReturns ('\n' :: (pieces s).map Piece.shown) = withoutReturns ('\n' :: s)
    rw [withoutReturns_cons, ih, ← withoutReturns_cons]
  | case3 c s hc ih =>
    rw [pieces.eq_3 c s hc, List.map_cons, shown_ofChar, withoutReturns_cons, ih,
      ← withoutReturns_cons]

/-- Without returns a text has a piece for each character. -/
theorem pieces_eq_map {s : List Char} (h : '\r' ∉ s) : pieces s = s.map Piece.ofChar := by
  induction s with
  | nil => rfl
  | cons c s ih =>
    obtain ⟨hc, hs⟩ := List.ne_and_not_mem_of_not_mem_cons h
    rw [pieces.eq_3 c s fun t hr => absurd hr.symm hc, ih hs, List.map_cons]

end ApiStubs.Text

namespace ApiStubs.Fragment

open Text

variable {α β : Type}

/-! ### Line feeds at the end -/

theorem trimEndOf_lineFeed (s : List Char) : trimEndOf ['\n'] s = s.rdropWhile (· == '\n') := by
  induction s using List.reverseRecOn with
  | nil => exact trimEndOf_of_not_suffix (by simp)
  | append_singleton s c ih =>
    by_cases hc : c = '\n'
    · subst hc
      rw [trimEndOf_append_self (by decide), ih, List.rdropWhile_concat_pos _ _ _ rfl]
    · rw [List.rdropWhile_concat_neg _ _ _ (by simpa using hc)]
      exact trimEndOf_concat_of_ne (Ne.symm hc) [] s

theorem rdropWhile_map (f : α → β) (p : β → Bool) (as : List α) :
    (as.map f).rdropWhile p = (as.rdropWhile (p ∘ f)).map f := by
  rw [List.rdropWhile, ← List.map_reverse, List.dropWhile_map, ← List.map_reverse, List.rdropWhile]

theorem isBreak_eq_shown (p : Piece) : isBreak p = (p.shown == '\n') := by
  cases p with
  | backslash => rfl
  | quote => rfl
  | lineBreak => rfl
  | plain c h => simp [isBreak, Piece.shown, h.2.2]

theorem isBreak_ofChar (c : Char) : isBreak (Piece.ofChar c) = (c == '\n') := by
  rw [isBreak_eq_shown, shown_ofChar]

/-- Line feeds that are dropped at the end may be dropped before returns are, too. -/
theorem settled_rdropWhile (s : List Char) : settled (s.rdropWhile (· == '\n')) = settled s := by
  induction s using List.reverseRecOn with
  | nil => rfl
  | append_singleton s c ih =>
    by_cases hc : c = '\n'
    · subst hc
      have hconcat : withoutReturns (s ++ ['\n']) = withoutReturns s ++ ['\n'] :=
        withoutReturns_append s ['\n']
      rw [List.rdropWhile_concat_pos _ _ _ rfl, ih, settled, settled, hconcat,
        List.rdropWhile_concat_pos _ _ _ rfl]
    · -- nothing is dropped, though behind a return there may be line feeds to settle
      rw [List.rdropWhile_concat_neg _ _ _ (by simpa using hc)]

/-! ### Both styles -/

theorem toList_inlineText_plain (events : List Event) :
    (inlineText .plain events).toList =
      (events.flatMap (Event.inline .plain)).rdropWhile (· == '\n') := by
  rw [inlineText, String.toList_ofList, ← trimEndOf_lineFeed]
  rfl

/-- The pieces of events show their plain text, but for returns. -/
theorem withoutReturns_shown_events (events : List Event) :
    withoutReturns ((events.flatMap Event.pieces).map Piece.shown) =
      withoutReturns (events.flatMap (Event.inline .plain)) := by
  induction events with
  | nil => rfl
  | cons e events ih =>
    have he : withoutReturns (e.pieces.map Piece.shown) = withoutReturns (e.inline .plain) := by
      rw [← pieces_inline, withoutReturns_shown_pieces]
    rw [List.flatMap_cons, List.map_append, withoutReturns_append, he, ih, List.flatMap_cons,
      withoutReturns_append]

/-- No text holds a return, and nothing else adds one. -/
theorem return_notMem_inline {e : Event}
    (h : ∀ content, e = .text content → '\r' ∉ content.toList) : '\r' ∉ e.inline .plain := by
  cases e with
  | start name selfClosing =>
    rw [Event.inline]
    split <;> decide
  | stop name =>
    rw [Event.inline]
    split <;> decide
  | text content => exact h content rfl

theorem flatMap_pieces_eq_map {events : List Event}
    (h : ∀ e ∈ events, '\r' ∉ e.inline .plain) :
    events.flatMap Event.pieces = (events.flatMap (Event.inline .plain)).map Piece.ofChar := by
  rw [List.map_flatMap]
  refine List.flatMap_congr fun e he => ?_
  rw [← pieces_inline, pieces_eq_map (h e he)]

/-- The escaped text of events is read as their plain text. -/
theorem readLiteral?_inlineText (events : List Event) :
    ∃ value, readLiteral? ((inlineText .escaped events).toList ++ ['"']) = some (value, []) ∧
      settled value = settled (inlineText .plain events).toList := by
  refine ⟨_, by rw [inlineText_escaped, String.toList_ofList, readLiteral?_pieces], ?_⟩
  have hbreak : isBreak = (fun c => c == '\n') ∘ Piece.shown := funext isBreak_eq_shown
  rw [toList_inlineText_plain, settled_rdropWhile, hbreak, ← rdropWhile_map, settled_rdropWhile,
    settled, settled, withoutReturns_shown_events]

/-- Without returns the escaped text of events is their plain text escaped. -/
theorem inlineText_escaped_eq {events : List Event}
    (h : ∀ content, Event.text content ∈ events → '\r' ∉ content.toList) :
    inlineText .escaped events =
      String.ofList (escapeLiteral (inlineText .plain events).toList) := by
  have hinline : ∀ e ∈ events, '\r' ∉ e.inline .plain := fun e he =>
    return_notMem_inline fun content htext => h content (htext ▸ he)
  have hreturn : '\r' ∉ (inlineText .plain events).toList := by
    intro hmem
    rw [toList_inlineText_plain] at hmem
    obtain ⟨e, he, hr⟩ := List.mem_flatMap.1 ((List.rdropWhile_prefix _ _).subset hmem)
    exact hinline e he hr
  have hbreak : isBreak ∘ Piece.ofChar = (· == '\n') := funext isBreak_ofChar
  -- pieces are characters here, so those dropped at the end are the same in both styles
  rw [inlineText_escaped, flatMap_pieces_eq_map hinline, rdropWhile_map, hbreak,
    ← toList_inlineText_plain, ← pieces_eq_map hreturn, escapeLiteral_eq_pieces]

/-- Both styles meet the same fault, or the escaped text is read as the plain one, but for returns
and then line feeds at the end. If no text of the fragment holds a return, it is the plain text
escaped. -/
theorem renderInline_escaped_plain (fragment : String) :
    (∃ fault, renderInline fragment .escaped = .error fault ∧
      renderInline fragment .plain = .error fault) ∨
    ∃ escaped plain value, renderInline fragment .escaped = .ok escaped ∧
      renderInline fragment .plain = .ok plain ∧
      readLiteral? (escaped.toList ++ ['"']) = some (value, []) ∧
      settled value = settled plain.toList ∧
      ((∀ content, Event.text content ∈ (read fragment).events → '\r' ∉ content.toList) →
        escaped = String.ofList (escapeLiteral plain.toList)) := by
  unfold renderInline Reading.toExcept
  cases (read fragment).fault with
  | some fault => exact .inl ⟨fault, rfl, rfl⟩
  | none =>
    obtain ⟨value, hread, hsettled⟩ := readLiteral?_inlineText (read fragment).events
    exact .inr ⟨_, _, value, rfl, rfl, hread, hsettled, inlineText_escaped_eq⟩

end ApiStubs.Fragment
