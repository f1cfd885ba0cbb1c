import ApiStubs.Fragment.Offset
import ApiStubs.Proofs.CursorReading
import ApiStubs.Proofs.TokenShapes
import Mathlib.Data.List.TakeWhile

/-!
# A reader by byte offsets reads the same tokens

A reader that counts bytes cuts a tag, a comment or a run of text out of its source. It never cuts a
character in two, since every offset it computes is the number of bytes of some text at its place.
So each of its passes is that of a cursor, which holds the rest of the source itself.

* `Cursor.reader`, `Cursor.Within`: the reader at the place of a cursor, and a cursor in a source;
* `readComment_eq`, `readData_eq`, `readDeclaration_eq`, `readEndTag_eq`, `readStartTag_eq`,
  `readRun_eq`: what is cut out for each kind of token;
* `Within.pass_reader`: no cut of a pass fails, and the pass is that of the cursor.
-/

namespace ApiStubs.Fragment

open Text

/-! ### Offsets of what is read -/

/-- The first copy of a character is behind any text without it. -/
theorem offsetOf?_append {a : Char} {front : List Char} (h : a ∉ front) (s : List Char) :
    offsetOf? [a] (front ++ s) = (offsetOf? [a] s).map (byteLength front + ·) := by
  rw [offsetOf?, offsetOf?, splitFirst?_append_of_notMem h, Option.map_map, Option.map_map]
  simp [Function.comp_def]

namespace Cursor

/-- The reader that stands where the cursor stands. -/
def reader (source : List Char) (c : Cursor) : OffsetReader :=
  { source, position := c.offset, elements := c.elements, pending := c.pending,
    finished := c.finished }

/-- The cursor stands in the source. -/
structure Within (source : List Char) (c : Cursor) : Prop where
  suffix : c.rest <:+ source
  size_eq : c.size = byteLength source

/-- The pass of a cursor that has read a token, or could not. -/
def passRead (c : Cursor) : Except Token.Unterminated (Token × List Char) → Pass
  | .error unterminated => .failed (unterminated.fault c.offset) { c with finished := true }
  | .ok (token, rest) =>
    match token.events c.elements with
    | .error name => .failed (.unexpectedEndTag name c.offset) { c with rest, finished := true }
    | .ok (events, elements) =>
      .went events.head? { c with rest, elements, pending := events.tail }

end Cursor

/-- What a reader makes of the pass of a cursor at its place. -/
def Pass.step (source : List Char) (c : Cursor) : Pass → OffsetReader.Step
  | .ended => .gave none (c.reader source)
  | .failed fault next => .gave (some (.error fault)) (next.reader source)
  | .went (some event) next => .gave (some (.ok event)) (next.reader source)
  | .went none next => .again (next.reader source)

namespace Cursor

variable {source front rest taken s : List Char} {c : Cursor} {a : Char}

theorem pass_of_token (hp : c.pending = []) (hf : c.finished = false) (hr : c.rest = a :: s) :
    c.pass = c.passRead (Token.read a s) := by
  cases c
  cases hp
  cases hf
  cases hr
  rfl

/-- The place of the cursor, as the number of bytes before it. -/
theorem Within.exists_front (h : c.Within source) :
    ∃ front, source = front ++ c.rest ∧ c.offset = byteLength front := by
  obtain ⟨front, hfront⟩ := h.suffix
  refine ⟨front, hfront.symm, ?_⟩
  rw [offset, h.size_eq, ← hfront, byteLength_append, Nat.add_sub_cancel]

theorem Within.reader_taken (h : c.Within source) (hr : c.rest = taken ++ rest)
    (elements : List String) (pending : List Event) (finished : Bool) :
    ({ c with rest, elements, pending, finished } : Cursor).reader source =
      { source, position := c.offset + byteLength taken, elements, pending, finished } := by
  obtain ⟨front, hsource, hoffset⟩ := h.exists_front
  have hposition : ({ c with rest, elements, pending, finished } : Cursor).offset =
      c.offset + byteLength taken := by
    rw [hoffset, offset, h.size_eq, hsource, hr]
    simp only [byteLength_append]
    omega
  rw [reader, hposition]

/-! ### Tokens -/

section Tokens

variable {mark run content : List Char} {missing : Token.Unterminated} {token : List Char → Token}
  {i : Nat}

theorem Within.rest?_eq (h : c.Within source) : (c.reader source).rest? = some c.rest := by
  obtain ⟨front, hsource, hoffset⟩ := h.exists_front
  show dropBytes? c.offset source = some c.rest
  rw [hoffset, hsource, dropBytes?_append]

/-- A token that leaves no trace moves the cursor. -/
theorem Within.step_skipped (h : c.Within source) (hp : c.pending = [])
    (hr : c.rest = taken ++ rest) (hi : i = c.offset + byteLength taken) :
    (c.passRead (.ok (.skipped, rest))).step source c =
      .again { c.reader source with position := i } := by
  subst hi
  show OffsetReader.Step.again (Cursor.reader source { c with rest, pending := [] }) = _
  rw [h.reader_taken hr, reader, hp]

theorem Within.step_run (h : c.Within source) (hp : c.pending = [])
    (hr : c.rest = taken ++ rest) (hi : i = c.offset + byteLength taken) :
    (c.passRead (.ok (Token.ofRun run content, rest))).step source c =
      OffsetReader.giveText { c.reader source with position := i } run content := by
  rw [Token.ofRun, OffsetReader.giveText]
  split
  · exact h.step_skipped hp hr hi
  · subst hi
    show OffsetReader.Step.gave _ (Cursor.reader source { c with rest, pending := [] }) = _
    rw [h.reader_taken hr, reader, hp]

theorem Within.readComment_eq (h : c.Within source) (hp : c.pending = [])
    (hr : c.rest = "<!--".toList ++ s) :
    (c.reader source).readComment c.rest = some ((c.passRead
      (Token.readThrough "-->".toList .comment (fun _ => .skipped) s)).step source c) := by
  have hdrop : dropBytes? 4 c.rest = some s := by
    rw [hr]
    exact dropBytes?_append "<!--".toList s
  rw [OffsetReader.readComment, hdrop, Token.readThrough, Option.bind_eq_bind, Option.bind_some,
    offsetOf?]
  cases hs : splitFirst? "-->".toList s with
  | none => rfl
  | some cut =>
    obtain ⟨inside, rest⟩ := cut
    have htaken : c.rest = ("<!--".toList ++ inside ++ "-->".toList) ++ rest := by
      rw [hr, eq_append_of_splitFirst? hs]
      simp only [List.append_assoc]
    refine congrArg some (h.step_skipped hp htaken ?_).symm
    rw [byteLength_append, byteLength_append]
    show c.offset + 4 + byteLength inside + 3 = c.offset + (4 + byteLength inside + 3)
    omega

theorem Within.readData_eq (h : c.Within source) (hp : c.pending = [])
    (hr : c.rest = "<![CDATA[".toList ++ s) :
    (c.reader source).readData s = some ((c.passRead
      (Token.readThrough "]]>".toList .tag (fun run => Token.ofRun run run) s)).step source c) := by
  rw [OffsetReader.readData, Token.readThrough, offsetOf?]
  cases hs : splitFirst? "]]>".toList s with
  | none => rfl
  | some cut =>
    obtain ⟨run, rest⟩ := cut
    have hcut := eq_append_of_splitFirst? hs
    have hslice : slice? 0 (byteLength run) s = some run := by
      rw [hcut, List.append_assoc]
      exact slice?_append [] run _
    have htaken : c.rest = ("<![CDATA[".toList ++ run ++ "]]>".toList) ++ rest := by
      rw [hr, hcut]
      simp only [List.append_assoc]
    simp only [Option.map_some, hslice]
    refine congrArg some (h.step_run hp htaken ?_).symm
    rw [byteLength_append, byteLength_append]
    show c.offset + 9 + byteLength run + 3 = c.offset + (9 + byteLength run + 3)
    omega

theorem Within.readDeclaration_eq (h : c.Within source) (hp : c.pending = [])
    (ha : a = '!' ∨ a = '?') (hr : c.rest = '<' :: a :: s) :
    (c.reader source).readDeclaration c.rest = (c.passRead
      (Token.readThrough ['>'] .tag (fun _ => .skipped) s)).step source c := by
  have hmark : offsetOf? ['>'] c.rest = (offsetOf? ['>'] s).map (2 + ·) := by
    have hfront : '>' ∉ ['<', a] := by rcases ha with rfl | rfl <;> decide
    have hsize : byteLength ['<', a] = 2 := by rcases ha with rfl | rfl <;> rfl
    rw [hr, ← hsize]
    exact offsetOf?_append hfront s
  rw [OffsetReader.readDeclaration, Token.readThrough, hmark, offsetOf?]
  cases hs : splitFirst? ['>'] s with
  | none => rfl
  | some cut =>
    obtain ⟨inside, rest⟩ := cut
    have htaken : c.rest = ('<' :: a :: (inside ++ ['>'])) ++ rest := by
      rw [hr, eq_append_of_splitFirst? hs]
      simp
    refine (h.step_skipped hp htaken ?_).symm
    have ha : a.utf8Size = 1 := by rcases ha with rfl | rfl <;> rfl
    simp only [byteLength_cons, byteLength_append, ha]
    show c.offset + (2 + byteLength inside) + 1 = c.offset + (1 + (1 + (byteLength inside + 1)))
    omega

theorem Within.slice?_eq (h : c.Within source) {before inside : List Char} {j : Nat}
    (hr : c.rest = before ++ (inside ++ rest)) (hi : i = c.offset + byteLength before)
    (hj : j = i + byteLength inside) : slice? i j source = some inside := by
  obtain ⟨front, hsource, hoffset⟩ := h.exists_front
  subst hj hi
  rw [hoffset, hsource, hr, ← byteLength_append, ← byteLength_append, ← List.append_assoc]
  exact slice?_append (front ++ before) inside rest

theorem Within.readEndTag_eq (h : c.Within source) (hp : c.pending = [])
    (hr : c.rest = '<' :: '/' :: s) :
    (c.reader source).readEndTag c.rest = some ((c.passRead
      (Token.readThrough ['>'] .tag (fun name => .endTag (elementName (trim name))) s)).step
        source c) := by
  have hmark : offsetOf? ['>'] c.rest = (offsetOf? ['>'] s).map (2 + ·) := by
    rw [hr]
    exact offsetOf?_append (show '>' ∉ ['<', '/'] by decide) s
  rw [OffsetReader.readEndTag, Token.readThrough, hmark, offsetOf?]
  cases hs : splitFirst? ['>'] s with
  | none => rfl
  | some cut =>
    obtain ⟨inside, rest⟩ := cut
    have hcut : c.rest = ['<', '/'] ++ (inside ++ '>' :: rest) := by
      rw [hr, eq_append_of_splitFirst? hs]
      simp
    have htaken : c.rest = ('<' :: '/' :: (inside ++ ['>'])) ++ rest := by
      rw [hcut]
      simp
    have hposition : c.offset + byteLength ('<' :: '/' :: (inside ++ ['>'])) =
        c.offset + (2 + byteLength inside) + 1 := by
      simp only [byteLength_cons, byteLength_append]
      show c.offset + (1 + (1 + (byteLength inside + 1))) = c.offset + (2 + byteLength inside) + 1
      omega
    have hslice : slice? ((c.reader source).position + 2)
        ((c.reader source).position + (2 + byteLength inside)) (c.reader source).source =
          some inside := h.slice?_eq hcut rfl (Nat.add_assoc ..).symm
    simp only [Option.map_some, hslice, Option.bind_eq_bind, Option.bind_some, passRead,
      Token.events]
    cases hclose : closeThrough (elementName (trim inside)) c.elements with
    | none =>
      show _ = some (OffsetReader.Step.gave _ (Cursor.reader source
        { c with rest, elements := c.elements, pending := c.pending, finished := true }))
      rw [h.reader_taken htaken, hposition]
      simp only [reader, hclose]
      rfl
    | some closing =>
      obtain ⟨closed, elements⟩ := closing
      -- at least its own element is closed by an end tag
      obtain ⟨event, events, hevents⟩ :
          ∃ event events, closed.map Event.stop = event :: events := by
        obtain ⟨inner, rfl, -⟩ := closeThrough_eq_some_iff.1 hclose
        cases inner <;> exact ⟨_, _, rfl⟩
      simp only [reader, hclose, hp, hevents]
      show _ = some (OffsetReader.Step.gave _ (Cursor.reader source
        { c with rest, elements, pending := events, finished := c.finished }))
      rw [h.reader_taken htaken, hposition]
      rfl

theorem Within.readStartTag_eq (h : c.Within source) (hp : c.pending = [])
    (hr : c.rest = '<' :: s) :
    (c.reader source).readStartTag c.rest = some ((c.passRead
      (match Token.tagInside? none s with
        | some (inside, rest) => .ok (Token.ofInside inside, rest)
        | none => .error .tag)).step source c) := by
  have hend : (c.reader source).tagEnd? c.rest =
      (Token.tagInside? none s).map fun cut => c.offset + (1 + byteLength cut.1) := by
    rw [hr, OffsetReader.tagEnd?, tagStop?_eq, Option.map_map]
    rfl
  rw [OffsetReader.readStartTag, hend]
  cases hs : Token.tagInside? none s with
  | none => rfl
  | some cut =>
    obtain ⟨inside, rest⟩ := cut
    have hcut : c.rest = ['<'] ++ (inside ++ '>' :: rest) := by
      rw [hr, Token.eq_append_of_tagInside? hs]
      rfl
    have htaken : c.rest = ('<' :: (inside ++ ['>'])) ++ rest := by
      rw [hcut]
      simp
    have hposition : c.offset + byteLength ('<' :: (inside ++ ['>'])) =
        c.offset + (1 + byteLength inside) + 1 := by
      simp only [byteLength_cons, byteLength_append]
      show c.offset + (1 + (byteLength inside + 1)) = c.offset + (1 + byteLength inside) + 1
      omega
    have hslice : slice? ((c.reader source).position + 1) (c.offset + (1 + byteLength inside))
        (c.reader source).source = some inside := h.slice?_eq hcut rfl (Nat.add_assoc ..).symm
    simp only [Option.map_some, hslice, Option.bind_eq_bind, Option.bind_some, Token.ofInside]
    generalize (inside.getLast? == some '/' || voidElements.contains (Token.startTagName inside)) =
      selfClosing
    have hreader (elements : List String) :
        Cursor.reader source { c with rest, elements, pending := [] } =
          { c.reader source with
            position := c.offset + (1 + byteLength inside) + 1, elements } := by
      rw [h.reader_taken htaken, hposition, reader, hp]
    cases selfClosing with
    | true => exact congrArg (fun r => some (OffsetReader.Step.gave _ r)) (hreader _).symm
    | false => exact congrArg (fun r => some (OffsetReader.Step.gave _ r)) (hreader _).symm

/-- The offset of the next `<`, or else that of the end. -/
theorem offsetOf?_lt (n : Nat) (s : List Char) :
    ((offsetOf? ['<'] s).map (n + ·)).getD (n + byteLength s) =
      n + byteLength (s.takeWhile (· != '<')) := by
  by_cases hmem : '<' ∈ s
  · obtain ⟨front, back, rfl, hfront⟩ := List.eq_append_cons_of_mem hmem
    have hpos : ∀ c ∈ front, (c != '<') = true := by
      intro c hc
      simpa using fun he : c = '<' => hfront (he ▸ hc)
    rw [offsetOf?, splitFirst?_singleton hfront, List.takeWhile_append_of_pos hpos]
    simp
  · have hnone : splitFirst? ['<'] s = none := by
      rw [splitFirst?_eq_none_iff]
      exact fun h => hmem (h.subset (by simp))
    have hpos : ∀ c ∈ s, (c != '<') = true := by
      intro c hc
      simpa using fun he : c = '<' => hmem (he ▸ hc)
    rw [offsetOf?, hnone, List.takeWhile_eq_self_iff.2 hpos]
    rfl

theorem Within.readRun_eq (h : c.Within source) (hp : c.pending = []) (hr : c.rest = a :: s) :
    (c.reader source).readRun c.rest =
      some ((c.passRead (.ok (Token.readText a s))).step source c) := by
  obtain ⟨front, hsource, hoffset⟩ := h.exists_front
  have htaken : c.rest = (a :: s.takeWhile (· != '<')) ++ s.dropWhile (· != '<') := by
    rw [hr, List.cons_append, List.takeWhile_append_dropWhile]
  have hdrop : dropBytes? (c.offset + a.utf8Size) source = some s := by
    have hsize : c.offset + a.utf8Size = byteLength (front ++ [a]) := by
      rw [hoffset, byteLength_append]
      rfl
    have hcut : source = (front ++ [a]) ++ s := by
      rw [hsource, hr]
      simp
    rw [hsize, hcut, dropBytes?_append]
  have hstop : ((offsetOf? ['<'] s).map (c.offset + a.utf8Size + ·)).getD (byteLength source) =
      c.offset + byteLength (a :: s.takeWhile (· != '<')) := by
    have hend : byteLength source = c.offset + a.utf8Size + byteLength s := by
      rw [hsource, hr, hoffset, byteLength_append, byteLength_cons, Nat.add_assoc]
    rw [hend, offsetOf?_lt, byteLength_cons, Nat.add_assoc]
  have hslice : slice? c.offset (c.offset + byteLength (a :: s.takeWhile (· != '<'))) source =
      some (a :: s.takeWhile (· != '<')) :=
    h.slice?_eq (show c.rest = [] ++ (_ ++ s.dropWhile (· != '<')) from htaken) rfl rfl
  have hfirst : (c.rest.head?.map Char.utf8Size).getD 1 = a.utf8Size := by
    rw [hr]
    rfl
  rw [OffsetReader.readRun, hfirst]
  simp only [reader, hdrop, Option.bind_eq_bind, Option.bind_some, hstop, hslice]
  exact congrArg some (h.step_run hp htaken rfl).symm

/-- What a `<` begins is told by the text behind it. -/
theorem isPrefixOf_lt (pattern s : List Char) :
    ('<' :: pattern).isPrefixOf ('<' :: s) = (stripPrefix? pattern s).isSome := by
  rw [Bool.eq_iff_iff, List.isPrefixOf_iff_prefix, List.cons_prefix_cons, Option.isSome_iff_ne_none,
    Ne, stripPrefix?_eq_none_iff, not_not]
  exact and_iff_right rfl

theorem Within.readTag_eq (h : c.Within source) (hp : c.pending = []) (hr : c.rest = '<' :: s) :
    (c.reader source).readTag c.rest = some ((c.passRead (Token.readTag s)).step source c) := by
  have hprefix (d : Char) : ['<', d].isPrefixOf c.rest = (s.head? == some d) := by
    rw [hr]
    cases s <;> simp [List.isPrefixOf, eq_comm]
  have hopens : OffsetReader.opensTag? c.rest = some (s.head?.any isTagLetter) := by
    have hlt : ['<'].isPrefixOf c.rest = true := by
      rw [hr]
      rfl
    have hdrop : dropBytes? 1 c.rest = some s := by
      rw [hr]
      exact dropBytes?_append ['<'] s
    rw [OffsetReader.opensTag?, if_pos hlt, hdrop, Option.map_some]
  have hdeclaration : "<!".toList.isPrefixOf c.rest = _ := hprefix '!'
  have hquestion : "<?".toList.isPrefixOf c.rest = _ := hprefix '?'
  have hendTag : "</".toList.isPrefixOf c.rest = _ := hprefix '/'
  rw [OffsetReader.readTag, hdeclaration, hquestion, hendTag, hopens]
  cases s with
  | nil => exact h.readRun_eq hp hr
  | cons d s =>
    simp only [List.head?_cons, beq_iff_eq, Option.some.injEq, Option.any_some,
      Option.bind_eq_bind, Option.bind_some]
    rw [Token.readTag]
    split
    · next hd => exact congrArg some (h.readDeclaration_eq hp hd hr)
    split
    · next hd =>
      subst hd
      exact h.readEndTag_eq hp hr
    split
    · exact h.readStartTag_eq hp hr
    · exact h.readRun_eq hp hr

theorem Within.readToken_eq (h : c.Within source) (hp : c.pending = []) (hr : c.rest = a :: s) :
    (c.reader source).readToken = some ((c.passRead (Token.read a s)).step source c) := by
  rw [OffsetReader.readToken, h.rest?_eq, Option.bind_eq_bind, Option.bind_some]
  by_cases ha : a = '<'
  · subst ha
    have hprefix (pattern : List Char) :
        ('<' :: pattern).isPrefixOf c.rest = (stripPrefix? pattern s).isSome := by
      rw [hr, isPrefixOf_lt]
    have hcomment : "<!--".toList.isPrefixOf c.rest = _ := hprefix "!--".toList
    have hdata : stripPrefix? "<![CDATA[".toList c.rest = stripPrefix? "![CDATA[".toList s := by
      rw [hr]
      rfl
    rw [Token.read, if_pos rfl, Token.readMarkup, hcomment, hdata]
    cases hc : stripPrefix? "!--".toList s with
    | some body =>
      refine h.readComment_eq hp ?_
      rw [hr, stripPrefix?_eq_some_iff.1 hc]
      rfl
    | none =>
      cases hd : stripPrefix? "![CDATA[".toList s with
      | some body =>
        refine h.readData_eq hp ?_
        rw [hr, stripPrefix?_eq_some_iff.1 hd]
        rfl
      | none => exact h.readTag_eq hp hr
  · have hno (pattern : List Char) : ('<' :: pattern).isPrefixOf c.rest = false := by
      rw [hr]
      simp [List.isPrefixOf, Ne.symm ha]
    have hdata : stripPrefix? "<![CDATA[".toList c.rest = none := by
      rw [hr]
      exact if_neg (Ne.symm ha)
    have hopens : OffsetReader.opensTag? c.rest = some false := if_neg (by rw [hno]; decide)
    have hcomment : "<!--".toList.isPrefixOf c.rest = false := hno _
    have hdeclaration : "<!".toList.isPrefixOf c.rest = false := hno _
    have hquestion : "<?".toList.isPrefixOf c.rest = false := hno _
    have hendTag : "</".toList.isPrefixOf c.rest = false := hno _
    rw [hcomment, hdata, Token.read, if_neg ha]
    simp only [OffsetReader.readTag, hdeclaration, hquestion, hendTag, hopens]
    exact h.readRun_eq hp hr

end Tokens

/-! ### Passes -/

/-- A pass of the reader is the pass of the cursor at its place. -/
theorem Within.pass_reader (h : c.Within source) :
    (c.reader source).pass = some (c.pass.step source c) := by
  obtain ⟨front, hsource, hoffset⟩ := h.exists_front
  have hpending : (c.reader source).pending = c.pending := rfl
  have hfinished : (c.reader source).finished = c.finished := rfl
  rw [OffsetReader.pass, hpending, hfinished]
  cases hp : c.pending with
  | cons event pending =>
    rw [pass_of_goes (.handOut hp)]
    rfl
  | nil =>
    cases hf : c.finished with
    | true =>
      rw [pass_eq_ended_iff.2 ⟨hp, hf⟩]
      rfl
    | false =>
      have hsize : byteLength source = c.offset + byteLength c.rest := by
        rw [hoffset, hsource, byteLength_append]
      cases hr : c.rest with
      | nil =>
        have hend : byteLength source ≤ c.offset := by rw [hsize, hr, byteLength_nil, Nat.add_zero]
        rw [pass_of_goes (.close hp hf hr)]
        exact if_pos hend
      | cons a s =>
        have hlt : c.offset < byteLength source := by
          have hpos := a.utf8Size_pos
          rw [hsize, hr, byteLength_cons]
          omega
        rw [pass_of_token hp hf hr, ← h.readToken_eq hp hr]
        exact if_neg (Nat.not_le.2 hlt)

end Cursor

end ApiStubs.Fragment
