import ApiStubs.Proofs.InlinePieces

/-!
# What running text consists of

Running text is put together event by event. Then the line breaks at its end are dropped one after
the other, by comparing the end of the text with a line break as it is written. In the escaped style
a line break is written like text that may stand in a description, and still nothing but whole line
breaks is dropped.

* `Flows`: the text that a sequence of events puts together;
* `exists_trimEndOf`: dropping a pattern at the end takes whole copies, and all of them;
* `renderInline_flows`: the running text of a fragment, and what it is made of if it is escaped.
-/

namespace ApiStubs.Fragment

open Text

/-- The text that events put together, one after the other. -/
inductive Flows (style : InlineStyle) : List Event → List Char → Prop
  | nil : Flows style [] []
  /-- A list item is marked where it starts. -/
  | item {events : List Event} {s : List Char} (selfClosing : Bool) (h : Flows style events s) :
      Flows style (.start "li" selfClosing :: events) ("* ".toList ++ s)
  | start {events : List Event} {s : List Char} {name : String} (hn : name ≠ "li")
      (selfClosing : Bool) (h : Flows style events s) :
      Flows style (.start name selfClosing :: events) s
  | escaped {events : List Event} {s : List Char} (he : style.escape = true) (content : String)
      (h : Flows style events s) :
      Flows style (.text content :: events) (escapeLiteral content.toList ++ s)
  | verbatim {events : List Event} {s : List Char} (he : style.escape = false) (content : String)
      (h : Flows style events s) : Flows style (.text content :: events) (content.toList ++ s)
  /-- A line ends with each of these elements. -/
  | lineEnd {events : List Event} {s : List Char} {name : String}
      (hn : name ∈ ["p", "li", "h1", "h2", "h3", "h4", "h5"]) (h : Flows style events s) :
      Flows style (.stop name :: events) (style.newline.toList ++ s)
  | stop {events : List Event} {s : List Char} {name : String}
      (hn : name ∉ ["p", "li", "h1", "h2", "h3", "h4", "h5"]) (h : Flows style events s) :
      Flows style (.stop name :: events) s

/-- Events put together what each of them adds. -/
theorem flows_inline (style : InlineStyle) (events : List Event) :
    Flows style events (events.flatMap (Event.inline style)) := by
  induction events with
  | nil => exact .nil
  | cons event events ih =>
    rw [List.flatMap_cons]
    cases event with
    | start name selfClosing =>
      rw [Event.inline]
      split
      · next hn =>
        subst hn
        exact .item selfClosing ih
      · next hn => exact .start hn selfClosing ih
    | stop name =>
      rw [Event.inline]
      split
      · next hn => exact .lineEnd (List.contains_iff_mem.1 hn) ih
      · next hn => exact .stop (fun hmem => hn (List.contains_iff_mem.2 hmem)) ih
    | text content =>
      rw [Event.inline]
      split
      · next he => exact .escaped he content ih
      · next he => exact .verbatim (Bool.eq_false_iff.2 he) content ih

/-- Copies of the pattern are dropped from the end until there is none. -/
theorem exists_trimEndOf {pattern : List Char} (hp : pattern ≠ []) (s : List Char) :
    ∃ k, s = trimEndOf pattern s ++ (List.replicate k pattern).flatten ∧
      ¬pattern <:+ trimEndOf pattern s := by
  by_cases h : pattern <:+ s
  · obtain ⟨t, rfl⟩ := h
    have hlt : t.length < (t ++ pattern).length := by
      simpa using List.length_pos_iff.2 hp
    obtain ⟨k, ht, hend⟩ := exists_trimEndOf hp t
    refine ⟨k + 1, ?_, ?_⟩
    · rw [trimEndOf_append_self hp, List.replicate_succ', List.flatten_append,
        List.flatten_singleton, ← List.append_assoc, ← ht]
    · rwa [trimEndOf_append_self hp]
  · rw [trimEndOf_of_not_suffix h]
    exact ⟨0, (List.append_nil s).symm, h⟩
termination_by s.length

/-- What is left of the running text is what the events put together, but for line breaks at its
end. -/
theorem inlineText_flows (style : InlineStyle) (events : List Event) :
    ¬style.newline.toList <:+ (inlineText style events).toList ∧
      ∃ k, Flows style events ((inlineText style events).toList ++
        (List.replicate k style.newline.toList).flatten) := by
  have hne : style.newline.toList ≠ [] := fun h =>
    style.newline_ne_empty (String.toList_eq_nil_iff.1 h)
  obtain ⟨k, hall, hend⟩ := exists_trimEndOf hne (events.flatMap (Event.inline style))
  rw [inlineText, String.toList_ofList]
  refine ⟨hend, k, ?_⟩
  rw [← hall]
  exact flows_inline style events

/-- Behind the pieces that are kept there are only line breaks. -/
theorem exists_rdropWhile_isBreak (ps : List Piece) :
    ∃ k, ps = ps.rdropWhile isBreak ++ List.replicate k .lineBreak := by
  have hbreaks : ∀ p ∈ ps.rtakeWhile isBreak, p = .lineBreak := by
    intro p hp
    have hp : isBreak p = true := List.mem_rtakeWhile_imp hp
    exact beq_iff_eq.1 hp
  refine ⟨(ps.rtakeWhile isBreak).length, ?_⟩
  rw [← List.eq_replicate_of_mem hbreaks, List.rdropWhile_append_rtakeWhile]

/-- The running text of a fragment, in any style.

* A fragment that cannot be read has none, and its fault is reported.
* Otherwise all line breaks at the end of what the events put together are dropped, one after the
  other, and nothing else is.
* In the escaped style the text that is left is a sequence of whole pieces, so no escape sequence is
  cut in two. They are the pieces of the events, but for line breaks at the end: no documented text
  is dropped because it looks like one. -/
theorem renderInline_flows (fragment : String) (style : InlineStyle) :
    (∃ fault, (read fragment).fault = some fault ∧ renderInline fragment style = .error fault) ∨
    ∃ text, (read fragment).fault = none ∧ renderInline fragment style = .ok text ∧
      ¬style.newline.toList <:+ text.toList ∧
      (∃ k, Flows style (read fragment).events
        (text.toList ++ (List.replicate k style.newline.toList).flatten)) ∧
      (style = .escaped → ∃ (ps : List Piece) (k : Nat), text.toList = ps.flatMap Piece.written ∧
        (read fragment).events.flatMap Event.pieces = ps ++ List.replicate k .lineBreak) := by
  unfold renderInline Reading.toExcept
  cases (read fragment).fault with
  | some fault => exact .inl ⟨fault, rfl, rfl⟩
  | none =>
    obtain ⟨hend, hflows⟩ := inlineText_flows style (read fragment).events
    refine .inr ⟨_, rfl, rfl, hend, hflows, ?_⟩
    rintro rfl
    obtain ⟨k, hk⟩ := exists_rdropWhile_isBreak ((read fragment).events.flatMap Event.pieces)
    exact ⟨_, k, by rw [inlineText_escaped, String.toList_ofList], hk⟩

end ApiStubs.Fragment
