import ApiStubs.Proofs.CutTags
import ApiStubs.Proofs.Nesting

/-!
# The root element around a fragment

A fragment is read between the tags of a root element that are not its own. The root wraps the
whole fragment as long as nothing in it reaches across these tags. There are two ways to do so: an
end tag may close the root before the fragment ends, and a tag without its own `>` takes the one of
the end tag of the root.

* `Cursor.Arrives`: a cursor stands before some end of the fragment, and nothing waits;
* `RootWraps`: the events are those of the root around all others, and a tag that the fragment cuts
  off is a fault;
* `ClosesRoot`, `TakesRootEnd`: the two ways to reach across the tags of the root;
* `Arrives.traverse`: a fragment that is read without a fault is read up to its end;
* `rootWraps_iff`: the root wraps the fragment exactly if it takes neither way.
-/

namespace ApiStubs.Fragment

open Text

/-! ### Cursors in the fragment -/

theorem toList_wrap (fragment : String) : (wrap fragment).toList =
    '<' :: (rootElement.toList ++ '>' :: (fragment.toList ++ rootEnd)) := by
  simp [wrap, rootEnd, rootEndTag]

theorem Token.read_rootStart (rest : List Char) :
    Token.read '<' (rootElement.toList ++ '>' :: rest) =
      .ok (.startTag rootElement false, rest) :=
  @Token.read_startTag 'h' "tml".toList rfl (Token.enclosed_of_plain (by simp)) rest

/-- The cursor stands before `s`, which is what the fragment has left, and no event waits. -/
structure Cursor.Arrives (fragment : String) (delivered : List Event) (c : Cursor)
    (s : List Char) : Prop where
  reaches : Reaches fragment delivered c
  pending_eq : c.pending = []
  finished_eq : c.finished = false
  rest_eq : c.rest = s ++ rootEnd

namespace Cursor

/-- The cursor before the fragment itself, behind the start tag of the root. -/
def inRoot (fragment : String) : Cursor :=
  { start fragment with rest := fragment.toList ++ rootEnd, elements := [rootElement] }

theorem arrives_inRoot (fragment : String) :
    Arrives fragment [.start rootElement false] (inRoot fragment) fragment.toList := by
  have hstart : Reaches fragment [] (start fragment) := .start
  have hread := Token.read_rootStart (fragment.toList ++ rootEnd)
  have hreach := hstart.token rfl rfl (toList_wrap fragment) hread rfl
  exact ⟨hreach, rfl, rfl, rfl⟩

section Arrives

variable {fragment : String} {delivered es : List Event} {c : Cursor} {a : Char}
  {s rest : List Char} {token : Token} {left : List String}

theorem Arrives.read_eq (h : Arrives fragment delivered c s) :
    read fragment = (readFrom c.size c.elements (s ++ rootEnd)).after delivered := by
  rw [h.reaches.read_eq, reading, h.finished_eq, h.pending_eq, h.rest_eq]
  rfl

theorem Arrives.offset_eq (h : Arrives fragment delivered c s) :
    c.offset = c.size - byteLength (s ++ rootEnd) := by
  rw [offset, h.rest_eq]

theorem Arrives.fault_of_unterminated (h : Arrives fragment delivered c (a :: s))
    {u : Token.Unterminated} (ht : Token.read a (s ++ rootEnd) = .error u) :
    (read fragment).fault = some (u.fault c.offset) := by
  rw [h.read_eq, List.cons_append, readFrom_of_unterminated ht, h.offset_eq]
  rfl

theorem Arrives.fault_of_unexpected (h : Arrives fragment delivered c (a :: s)) {name : String}
    (ht : Token.read a (s ++ rootEnd) = .ok (token, rest))
    (he : token.events c.elements = .error name) :
    (read fragment).fault = some (.unexpectedEndTag name c.offset) := by
  rw [h.read_eq, List.cons_append, readFrom_of_unexpected ht he, h.offset_eq]
  rfl

/-- Behind a token that takes the end tag of the root nothing is left to read. -/
theorem Arrives.fault_of_last (h : Arrives fragment delivered c (a :: s))
    (ht : Token.read a (s ++ rootEnd) = .ok (token, []))
    (he : token.events c.elements = .ok (es, left)) : (read fragment).fault = none := by
  rw [h.read_eq, List.cons_append, readFrom_of_token ht he, readFrom_nil]
  rfl

theorem Arrives.after_token (h : Arrives fragment delivered c (a :: s))
    (ht : Token.read a (s ++ rootEnd) = .ok (token, rest ++ rootEnd))
    (he : token.events c.elements = .ok (es, left)) :
    Arrives fragment (delivered ++ es) { c with rest := rest ++ rootEnd, elements := left } rest :=
  ⟨h.reaches.token h.pending_eq h.finished_eq h.rest_eq ht he, h.pending_eq, h.finished_eq, rfl⟩

theorem Arrives.replay_eq (h : Arrives fragment delivered c s) :
    replay [] delivered = some c.elements := by
  obtain ⟨waiting, hw, hr⟩ := h.reaches.replay_eq
  have hnil : waiting = [] := by simpa [h.pending_eq] using hw.symm
  rw [hr, hnil, List.nil_append]

end Arrives

end Cursor

/-! ### Reaching across the tags of the root -/

open Cursor

/-- The root wraps the whole fragment. -/
structure RootWraps (fragment : String) : Prop where
  /-- The root starts before everything else. -/
  head?_events : (read fragment).events.head? = some (.start rootElement false)
  /-- Without a fault the last event is the end of the root, and all other elements are inside. -/
  encloses : (read fragment).fault = none → ∃ inside, Balanced inside ∧
    (read fragment).events = .start rootElement false :: (inside ++ [.stop rootElement])
  /-- A tag or declaration that is cut off by the end of the fragment is a fault where it begins. -/
  fault_of_cutTag : ∀ delivered c s, Arrives fragment delivered c s → CutTag s →
    (read fragment).fault = some (.unterminatedTag c.offset)

/-- The fragment is read without a fault, although its root is closed before it ends. -/
def ClosesRoot (fragment : String) : Prop :=
  (read fragment).fault = none ∧
    ∃ delivered c s, Arrives fragment delivered c s ∧ delivered ≠ [] ∧ c.elements = []

/-- The fragment ends in a tag or declaration that takes its `>` from the end tag of the root. -/
def TakesRootEnd (fragment : String) : Prop :=
  ∃ delivered c s, Arrives fragment delivered c s ∧ OpenTag s

/-! ### Events inside the root -/

/-- A token that leaves the outermost element open has its events inside this element. -/
theorem Token.replay_inside {token : Token} {inner left : List String} {root : String}
    {es : List Event} (h : token.events (inner ++ [root]) = .ok (es, left)) (hl : left ≠ []) :
    ∃ inner', left = inner' ++ [root] ∧ replay inner es = some inner' := by
  generalize hels : inner ++ [root] = elements at h
  cases leaves_of_events h with
  | opened name => exact ⟨name :: inner, by rw [← hels]; rfl, rfl⟩
  | selfClosed name => exact ⟨inner, hels.symm, rfl⟩
  | @closed name above left he hn =>
    obtain ⟨inner', last, rfl⟩ := List.eq_nil_or_concat left |>.resolve_left hl
    have he : inner ++ [root] = (above ++ name :: inner') ++ [last] := by simpa [he] using hels
    obtain ⟨rfl, hlast⟩ := List.append_inj' he rfl
    refine ⟨inner', by simpa using hlast.symm, ?_⟩
    have hstop := replay_map_stop (above ++ [name]) inner'
    rwa [List.append_assoc] at hstop
  | text content => exact ⟨inner, hels.symm, rfl⟩
  | skipped => exact ⟨inner, hels.symm, rfl⟩

/-! ### Reading up to the end of the fragment -/

section Traverse

variable {fragment : String} {delivered : List Event} {c : Cursor} {a : Char} {s : List Char}

theorem Cursor.Arrives.fault_of_cutTag (h : Arrives fragment delivered c s) (hs : CutTag s)
    (ho : ¬OpenTag s) : (read fragment).fault = some (.unterminatedTag c.offset) := by
  obtain ⟨a, s', rfl, hread⟩ := hs.read_rootEnd ho
  exact h.fault_of_unterminated hread

/-- Without a fault the cursor goes on with a token of the fragment. -/
theorem Cursor.Arrives.exists_token (h : Arrives fragment delivered c (a :: s))
    (hf : (read fragment).fault = none) (ho : ¬TakesRootEnd fragment) :
    ∃ (token : Token) (es : List Event) (c' : Cursor) (rest : List Char),
      token.events c.elements = .ok (es, c'.elements) ∧ rest.length ≤ s.length ∧
        Arrives fragment (delivered ++ es) c' rest := by
  cases hr : Token.read a s with
  | error u =>
    have hfault : (read fragment).fault ≠ none := by
      cases u with
      | comment => simp [h.fault_of_unterminated (read_comment_rootEnd hr)]
      | tag =>
        simp [h.fault_of_cutTag (cutTag_of_read hr) fun hopen => ho ⟨_, _, _, h, hopen⟩]
    exact absurd hf hfault
  | ok cut =>
    obtain ⟨token, rest⟩ := cut
    have ht : Token.read a (s ++ rootEnd) = .ok (token, rest ++ rootEnd) := read_append hr
    cases he : token.events c.elements with
    | error name => exact absurd hf (by simp [h.fault_of_unexpected ht he])
    | ok out =>
      exact ⟨token, out.1, _, rest, he, Token.length_le_of_read hr, h.after_token ht he⟩

/-- Behind the fragment the end tag of the root and the end of the text close what is open. -/
theorem Cursor.Arrives.read_rootEnd (h : Arrives fragment delivered c [])
    (he : rootElement ∈ c.elements) :
    read fragment = ⟨delivered ++ c.elements.map .stop, none⟩ := by
  obtain ⟨inner, outer, he, hn⟩ := List.eq_append_cons_of_mem he
  rw [h.read_eq, List.nil_append, rootEnd_eq, he,
    readFrom_of_token Token.read_rootEnd (Token.events_endTag hn outer), readFrom_nil]
  simp [Reading.after]

/-- The end tag of the root is a fault where no element of this name is open. -/
theorem Cursor.Arrives.fault_of_rootEnd (h : Arrives fragment delivered c [])
    (he : rootElement ∉ c.elements) : (read fragment).fault ≠ none := by
  rw [h.read_eq, List.nil_append, rootEnd_eq,
    readFrom_of_unexpected Token.read_rootEnd (Token.events_endTag_of_notMem he)]
  exact Option.some_ne_none _

end Traverse

/-- Without a fault the fragment is read up to its end, and what every token keeps holds there. -/
theorem Cursor.Arrives.traverse {fragment : String} {P : List Event → List String → Prop}
    (hf : (read fragment).fault = none) (ho : ¬TakesRootEnd fragment)
    (hstep : ∀ {delivered es : List Event} {elements : List String} {token : Token} {c : Cursor}
      {s : List Char}, P delivered elements → token.events elements = .ok (es, c.elements) →
      Arrives fragment (delivered ++ es) c s → P (delivered ++ es) c.elements)
    {delivered : List Event} {c : Cursor} {s : List Char} (h : Arrives fragment delivered c s)
    (hP : P delivered c.elements) :
    ∃ delivered' c', Arrives fragment delivered' c' [] ∧ P delivered' c'.elements := by
  match s with
  | [] => exact ⟨delivered, c, h, hP⟩
  | a :: s =>
    obtain ⟨token, es, c', rest, he, hle, h'⟩ := h.exists_token hf ho
    exact h'.traverse hf ho hstep (hstep hP he h')
termination_by s.length
decreasing_by exact Nat.lt_succ_of_le hle

/-! ### Tags that take the end tag of the root -/

/-- The name of an open element ends before any slash. -/
theorem Cursor.Reaches.slash_notMem {fragment : String} {delivered : List Event} {c : Cursor}
    (h : Reaches fragment delivered c) : ∀ name ∈ c.elements, '/' ∉ name.toList := by
  induction h with
  | start => exact fun _ hname => nomatch hname
  | @went delivered c c' event _ hpass ih =>
    cases goes_of_pass hpass with
    | handOut => exact ih
    | close => exact fun _ hname => nomatch hname
    | @token a s rest token es left hp hf hr ht he =>
      cases Token.leaves_of_events he with
      | opened name =>
        obtain ⟨inside, rfl⟩ := (Token.shape_of_read ht).exists_startTagName rfl
        exact List.forall_mem_cons.2 ⟨slash_notMem_startTagName inside, ih⟩
      | closed hels hn => exact fun name hname => ih name (by simp [hels, hname])
      | _ => exact ih

section Opened

variable {fragment : String} {delivered : List Event} {c : Cursor} {s : List Char}

/-- A start tag or declaration ends with the end tag of the root. -/
theorem Cursor.Arrives.fault_of_openTag (h : Arrives fragment delivered c s) (hs : OpenTag s)
    (hn : ¬['<', '/'] <+: s) : (read fragment).fault = none := by
  cases hs with
  | @startTag a s ha ht =>
    cases hi : Token.ofInside (a :: (s ++ rootEndTag)) with
    | startTag name selfClosing =>
      have hread := read_startTag_rootEnd ha ht
      rw [hi] at hread
      cases selfClosing with
      | true => exact h.fault_of_last hread rfl
      | false => exact h.fault_of_last hread rfl
    | _ => cases hi
  | declaration ha hcomment hdata hgt =>
    exact h.fault_of_last (read_declaration_rootEnd ha hcomment hdata hgt) rfl
  | @endTag s hgt => exact absurd ⟨s, rfl⟩ hn

/-- An end tag ends with the one of the root, whose text then makes up a part of its name. No
element has such a name. -/
theorem Cursor.Arrives.fault_of_endTag (h : Arrives fragment delivered c ('<' :: '/' :: s))
    (hs : '>' ∉ s) : (read fragment).fault =
      some (.unexpectedEndTag (elementName (trim (s ++ rootEndTag))) c.offset) := by
  have hslash : '/' ∈ s ++ rootEndTag := List.mem_append.2 (.inr (by decide))
  refine h.fault_of_unexpected (read_endTag_rootEnd hs) (Token.events_endTag_of_notMem ?_)
  intro hopen
  exact h.reaches.slash_notMem _ hopen (slash_mem_elementName hslash)

theorem Cursor.Arrives.fault_ne_of_openTag (h : Arrives fragment delivered c s) (hs : OpenTag s) :
    (read fragment).fault ≠ some (.unterminatedTag c.offset) := by
  by_cases hn : ['<', '/'] <+: s
  · obtain ⟨s, rfl⟩ := hn
    cases hs with
    | startTag hc => cases hc
    | declaration hc => simp at hc
    | endTag hgt => simp [h.fault_of_endTag hgt]
  · simp [h.fault_of_openTag hs hn]

end Opened

/-! ### When the root wraps the fragment -/

/-- The handed out events are those of the root and of what is inside it. -/
def Inside (delivered : List Event) (elements : List String) : Prop :=
  ∃ events inner, delivered = .start rootElement false :: events ∧
    elements = inner ++ [rootElement] ∧ replay [] events = some inner

theorem Inside.token {delivered es : List Event} {elements left : List String} {token : Token}
    (h : Inside delivered elements) (he : token.events elements = .ok (es, left)) (hl : left ≠ []) :
    Inside (delivered ++ es) left := by
  obtain ⟨events, inner, rfl, rfl, hr⟩ := h
  obtain ⟨inner', rfl, hr'⟩ := Token.replay_inside he hl
  refine ⟨events ++ es, inner', rfl, rfl, ?_⟩
  rw [replay_append, hr]
  exact hr'

/-- All that is still open is closed at the end, the root last. -/
theorem Inside.balanced {delivered : List Event} {elements : List String}
    (h : Inside delivered elements) :
    ∃ inside, Balanced inside ∧ delivered ++ elements.map .stop =
      .start rootElement false :: (inside ++ [.stop rootElement]) := by
  obtain ⟨events, inner, rfl, rfl, hr⟩ := h
  refine ⟨events ++ inner.map .stop, balanced_iff_replay.2 ?_, by simp⟩
  have hstop := replay_map_stop inner []
  rw [List.append_nil] at hstop
  rw [replay_append, hr]
  exact hstop

theorem head?_events_read (fragment : String) :
    (read fragment).events.head? = some (.start rootElement false) := by
  rw [(arrives_inRoot fragment).read_eq]
  rfl

/-- The root wraps the fragment if nothing in it reaches across its tags. -/
theorem rootWraps_of {fragment : String} (hc : ¬ClosesRoot fragment) (ho : ¬TakesRootEnd fragment) :
    RootWraps fragment where
  head?_events := head?_events_read fragment
  encloses hf := by
    have hstart : Inside [.start rootElement false] (inRoot fragment).elements :=
      ⟨[], [], rfl, rfl, rfl⟩
    obtain ⟨delivered, c, h, hin⟩ := (arrives_inRoot fragment).traverse hf ho
      (fun hin he h => hin.token he fun hl =>
        hc ⟨hf, _, _, _, h, by obtain ⟨_, _, rfl, -⟩ := hin; simp, hl⟩) hstart
    obtain ⟨inside, hb, heq⟩ := hin.balanced
    have hmem : rootElement ∈ c.elements := by
      obtain ⟨_, inner, -, he, -⟩ := hin
      simp [he]
    exact ⟨inside, hb, by rw [h.read_rootEnd hmem, heq]⟩
  fault_of_cutTag delivered c s h hs := h.fault_of_cutTag hs fun hopen => ho ⟨_, _, _, h, hopen⟩

/-- Once the root is closed, and nothing else is open, no event can follow. -/
theorem eq_of_prefix_of_replay {events inside : List Event} (hi : Balanced inside)
    (hp : events <+: .start rootElement false :: (inside ++ [.stop rootElement]))
    (hne : events ≠ []) (hr : replay [] events = some []) :
    events = .start rootElement false :: (inside ++ [.stop rootElement]) := by
  obtain ⟨event, events, rfl⟩ := List.exists_cons_of_ne_nil hne
  obtain ⟨rfl, hp'⟩ := List.cons_prefix_cons.1 hp
  rcases List.prefix_concat_iff.1 hp' with rfl | ⟨later, rfl⟩
  · rfl
  · -- inside the root the stack has the root at its bottom
    have hi := hi.replay_eq []
    rw [replay_append] at hi
    obtain ⟨stack, hs, -⟩ := Option.bind_eq_some_iff.1 hi
    have hroot := replay_append_below hs [rootElement]
    have hr : replay [rootElement] events = some [] := hr
    rw [List.nil_append, hr] at hroot
    simp at hroot

theorem RootWraps.not_takesRootEnd {fragment : String} (h : RootWraps fragment) :
    ¬TakesRootEnd fragment := by
  rintro ⟨delivered, c, s, hc, hs⟩
  exact hc.fault_ne_of_openTag hs (h.fault_of_cutTag _ _ _ hc (.opened hs))

theorem RootWraps.not_closesRoot {fragment : String} (h : RootWraps fragment) :
    ¬ClosesRoot fragment := by
  rintro ⟨hf, delivered, c, s, hc, hne, hels⟩
  obtain ⟨inside, hb, hevents⟩ := h.encloses hf
  -- what is handed out up to any cursor is a part of the events
  have hfront : ∀ {delivered c s}, Arrives fragment delivered c s →
      delivered <+: (read fragment).events := by
    intro delivered c s hc
    rw [hc.read_eq]
    exact List.prefix_append _ _
  have hreplay : replay [] (read fragment).events = some [] := by
    rw [hevents]
    exact (Balanced.element rootElement hb .nil).replay_eq []
  have hall : delivered = (read fragment).events := by
    have hpart := hfront hc
    rw [hevents] at hpart ⊢
    exact eq_of_prefix_of_replay hb hpart hne (by rw [hc.replay_eq, hels])
  -- at the end of the fragment all events were handed out before its end tag was read
  obtain ⟨delivered', c', hc', rfl⟩ := hc.traverse
    (P := fun delivered _ => delivered = (read fragment).events) hf h.not_takesRootEnd
    (fun hd _ hnext => by
      subst hd
      exact (hfront hnext).eq_of_length_le (by simp)) hall
  have hnil : c'.elements = [] := Option.some.inj (hc'.replay_eq.symm.trans hreplay)
  exact hc'.fault_of_rootEnd (by simp [hnil]) hf

/-- The root wraps a fragment exactly if no end tag in the fragment closes it early and no tag at
the end of the fragment takes the `>` of the end tag of the root.

A fragment that ends in a tag is read as follows.

* Where a start tag is open outside quotes, or a declaration, there is no fault at all.
* Where an end tag is open its name goes on with the end tag of the root, and the fault is that no
  such element is open.
* Where a start tag is open in quotes, or a character data section, the tag is the fault. -/
theorem rootWraps_iff (fragment : String) :
    (RootWraps fragment ↔ ¬ClosesRoot fragment ∧ ¬TakesRootEnd fragment) ∧
      ∀ delivered c s, Arrives fragment delivered c s →
        (OpenTag s → ¬['<', '/'] <+: s → (read fragment).fault = none) ∧
        (∀ name, s = '<' :: '/' :: name → '>' ∉ name → (read fragment).fault =
          some (.unexpectedEndTag (elementName (trim (name ++ rootEndTag))) c.offset)) ∧
        (CutTag s → ¬OpenTag s → (read fragment).fault = some (.unterminatedTag c.offset)) := by
  refine ⟨⟨fun h => ⟨h.not_closesRoot, h.not_takesRootEnd⟩, fun h => rootWraps_of h.1 h.2⟩, ?_⟩
  intro delivered c s h
  refine ⟨h.fault_of_openTag, ?_, h.fault_of_cutTag⟩
  rintro name rfl hgt
  exact h.fault_of_endTag hgt

/-- The start tag in `<a` ends with the end tag of the root and takes its `<` into the name. In
`</html><html>` the end of the root is that of the first tag, and the last event ends the second
element of the same name. -/
theorem not_rootWraps_openTag_closedRoot :
    read "<a" = ⟨[.start "html" false, .start "a<" false, .stop "a<", .stop "html"], none⟩ ∧
      ¬RootWraps "<a" ∧
      read "</html><html>" =
        ⟨[.start "html" false, .stop "html", .start "html" false, .stop "html"], none⟩ ∧
      ¬RootWraps "</html><html>" := by
  have hopen : read "<a" =
      ⟨[.start "html" false, .start "a<" false, .stop "a<", .stop "html"], none⟩ := by
    have htag : Token.read '<' ("a".toList ++ rootEnd) = .ok (.startTag "a<" false, []) := rfl
    rw [(arrives_inRoot "<a").read_eq]
    show (readFrom _ ["html"] ('<' :: ("a".toList ++ rootEnd))).after _ = _
    rw [readFrom_of_token htag rfl, readFrom_nil]
    rfl
  have hclosed : read "</html><html>" =
      ⟨[.start "html" false, .stop "html", .start "html" false, .stop "html"], none⟩ := by
    have hend : Token.read '<' ("/html><html>".toList ++ rootEnd) =
      .ok (.endTag "html", "<html>".toList ++ rootEnd) := rfl
    have hstart : Token.read '<' ("html>".toList ++ rootEnd) =
      .ok (.startTag "html" false, rootEnd) := rfl
    rw [(arrives_inRoot "</html><html>").read_eq]
    show (readFrom _ ["html"] ('<' :: ("/html><html>".toList ++ rootEnd))).after _ = _
    rw [readFrom_of_token hend rfl]
    show ((readFrom _ [] ('<' :: ("html>".toList ++ rootEnd))).after _).after _ = _
    rw [readFrom_of_token hstart rfl, rootEnd_eq, readFrom_of_token Token.read_rootEnd rfl,
      readFrom_nil]
    rfl
  refine ⟨hopen, fun h => ?_, hclosed, fun h => ?_⟩
  · have hcut : CutTag "<a".toList := .opened (.startTag rfl (.plain (by decide) rfl .nil))
    have hfault := h.fault_of_cutTag _ _ _ (arrives_inRoot "<a") hcut
    rw [hopen] at hfault
    cases hfault
  · obtain ⟨inside, hb, heq⟩ := h.encloses (by rw [hclosed])
    rw [hclosed] at heq
    have heq : [.stop "html", .start "html" false] ++ [Event.stop "html"] =
        inside ++ [.stop rootElement] := List.tail_eq_of_cons_eq heq
    obtain ⟨rfl, -⟩ := List.append_inj' heq rfl
    cases balanced_iff_replay.1 hb

end ApiStubs.Fragment
