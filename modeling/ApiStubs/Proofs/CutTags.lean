import ApiStubs.Proofs.TokenShapes

/-!
# Tags that are cut off

A text may end before a tag does that begins in it. What is read there depends on what comes next,
and behind a fragment this is the end tag of the root.

* `TagText`, `OpenTag`, `CutTag`: tags that do not end in a text, by their grammar;
* `cutTag_of_read`: a text that is read as a tag without its end is one;
* `read_append`: a token that ends in a text is the same with markup behind it;
* `read_startTag_rootEnd`, `read_declaration_rootEnd`, `read_endTag_rootEnd`: tags that the end tag
  of the root ends;
* `read_openQuote`, `read_openData`, `read_openComment`: what does not end is a fault;
* `CutTag.read_rootEnd`, `read_comment_rootEnd`: what the end tag of the root does not end.
-/

namespace ApiStubs

namespace Text

variable {a : Char} {pattern s t : List Char}

/-! ### Searching a text with more behind it -/

/-- A pattern does not reach beyond a character that it does not hold. -/
theorem prefix_of_prefix_append (ha : a ∉ pattern) (h : pattern <+: s ++ a :: t) :
    pattern <+: s := by
  rcases Nat.lt_or_ge s.length pattern.length with hlt | hle
  · have hs : s ++ [a] <+: pattern := by
      have hfront : s ++ [a] <+: s ++ a :: t := ⟨t, by simp⟩
      refine List.prefix_of_prefix_length_le hfront h ?_
      rw [List.length_append, List.length_singleton]
      exact hlt
    exact absurd (hs.subset (by simp)) ha
  · exact List.prefix_of_prefix_length_le h (List.prefix_append ..) hle

theorem stripPrefix?_append (ha : a ∉ pattern) :
    stripPrefix? pattern (s ++ a :: t) = (stripPrefix? pattern s).map (· ++ a :: t) := by
  cases hs : stripPrefix? pattern s with
  | some rest =>
    rw [Option.map_some, stripPrefix?_eq_some_iff, stripPrefix?_eq_some_iff.1 hs,
      List.append_assoc]
  | none =>
    rw [Option.map_none, stripPrefix?_eq_none_iff]
    exact fun h => stripPrefix?_eq_none_iff.1 hs (prefix_of_prefix_append ha h)

/-- A cut stays where it is; without one the search goes on in what is behind. -/
theorem splitFirst?_append (ha : a ∉ pattern) :
    splitFirst? pattern (s ++ a :: t) =
      match splitFirst? pattern s with
      | some (before, after) => some (before, after ++ a :: t)
      | none => (splitFirst? pattern (a :: t)).map fun cut => (s ++ cut.1, cut.2) := by
  induction s with
  | nil =>
    cases pattern with
    | nil => rfl
    | cons p pattern => simp [splitFirst?]
  | cons c s ih =>
    rw [List.cons_append, splitFirst?, ← List.cons_append, stripPrefix?_append ha, splitFirst?]
    cases stripPrefix? pattern (c :: s) with
    | some rest => rfl
    | none =>
      simp only [Option.map_none, ih]
      cases splitFirst? pattern s with
      | some cut => rfl
      | none => simp [Function.comp_def]

theorem mem_trim (h : a ∈ s) (hb : isBlank a = false) : a ∈ trim s := by
  obtain ⟨left, right, hleft, hright, hs⟩ := surrounded_trim s
  have hblank {t : List Char} (ht : allBlank t = true) : a ∉ t := by
    intro hmem
    rw [List.all_eq_true.1 ht a hmem] at hb
    cases hb
  rw [hs, List.mem_append, List.mem_append] at h
  exact (h.resolve_right (hblank hright)).resolve_left (hblank hleft)

end Text

namespace Fragment

open Text

/-! ### Tags that do not end -/

/-- A quote around the value of an attribute. -/
def isQuote (c : Char) : Bool := c == '"' || c == '\''

/-- The text of a start tag up to a place that is not in quotes. -/
inductive TagText : List Char → Prop
  | nil : TagText []
  | plain {c : Char} {s : List Char} (hc : c ≠ '>') (hq : isQuote c = false) (h : TagText s) :
      TagText (c :: s)
  | quoted {q : Char} {value s : List Char} (hq : isQuote q = true) (hv : q ∉ value)
      (h : TagText s) : TagText (q :: (value ++ q :: s))

/-- The text begins a tag or a declaration that the next `>` ends. -/
inductive OpenTag : List Char → Prop
  | startTag {c : Char} {s : List Char} (hc : isTagLetter c = true) (h : TagText (c :: s)) :
      OpenTag ('<' :: c :: s)
  | declaration {c : Char} {s : List Char} (hc : c = '!' ∨ c = '?')
      (hcomment : ¬"!--".toList <+: c :: s) (hdata : ¬"![CDATA[".toList <+: c :: s)
      (hs : '>' ∉ s) : OpenTag ('<' :: c :: s)
  | endTag {s : List Char} (hs : '>' ∉ s) : OpenTag ('<' :: '/' :: s)

/-- The text begins a tag or a declaration and ends before it does. -/
inductive CutTag : List Char → Prop
  | opened {s : List Char} (h : OpenTag s) : CutTag s
  /-- A start tag is cut off in quotes. -/
  | quoted {c q : Char} {s value : List Char} (hc : isTagLetter c = true) (h : TagText (c :: s))
      (hq : isQuote q = true) (hv : q ∉ value) : CutTag ('<' :: c :: (s ++ q :: value))
  /-- A character data section is cut off. -/
  | data {s : List Char} (h : contains "]]>".toList s = false) :
      CutTag ('<' :: ("![CDATA[".toList ++ s))

theorem isQuote_iff {c : Char} : isQuote c = true ↔ c = '"' ∨ c = '\'' := by
  simp [isQuote]

theorem TagText.enclosed {s : List Char} (h : TagText s) : Token.Enclosed s := by
  induction h with
  | nil => exact Token.enclosed_nil
  | @plain c s hc hq h ih =>
    have hone : Token.Enclosed [c] := by
      refine Token.enclosed_of_plain fun d hd => ?_
      obtain rfl := List.mem_singleton.1 hd
      have hq : ¬(d = '"' ∨ d = '\'') := fun e => by simp [isQuote_iff.2 e] at hq
      exact ⟨hc, not_or.1 hq⟩
    exact hone.append ih
  | @quoted q value s hq hv h ih =>
    intro rest
    have hg : q ≠ '>' := by
      rintro rfl
      cases hq
    have htail := Token.tagInside?_quoted hv (s ++ rest)
    rw [List.cons_append, List.append_assoc, List.cons_append, Token.tagInside?, if_neg hg,
      if_pos (isQuote_iff.1 hq), htail, ih, Option.map_map, Option.map_map]
    simp [Function.comp_def]

/-- Quotes that do not close hold all that follows. -/
theorem tagInside?_of_notMem {q : Char} {s : List Char} (h : q ∉ s) :
    Token.tagInside? (some q) s = none := by
  induction s with
  | nil => rfl
  | cons c s ih =>
    obtain ⟨hc, hs⟩ := List.ne_and_not_mem_of_not_mem_cons h
    rw [Token.tagInside?, if_neg (Ne.symm hc), ih hs, Option.map_none]

/-- A start tag that does not end is cut off outside quotes or in them. -/
theorem tagText_of_tagInside?_eq_none {s : List Char} (h : Token.tagInside? none s = none) :
    TagText s ∨ ∃ before q value, s = before ++ q :: value ∧ TagText before ∧
      isQuote q = true ∧ q ∉ value := by
  match s with
  | [] => exact .inl .nil
  | c :: s =>
    rw [Token.tagInside?] at h
    split at h
    · cases h
    next hc =>
    have h := Option.map_eq_none_iff.1 h
    cases hq : isQuote c with
    | true =>
      rw [if_pos (isQuote_iff.1 hq)] at h
      by_cases hmem : c ∈ s
      · obtain ⟨value, rest, rfl, hv⟩ := List.eq_append_cons_of_mem hmem
        rw [Token.tagInside?_quoted hv, Option.map_eq_none_iff] at h
        rcases tagText_of_tagInside?_eq_none h with ht | ⟨before, q, value', rfl, ht, hq', hv'⟩
        · exact .inl (.quoted hq hv ht)
        · exact .inr ⟨_, q, value', by simp, .quoted hq hv ht, hq', hv'⟩
      · exact .inr ⟨[], c, s, rfl, .nil, hq, hmem⟩
    | false =>
      rw [if_neg fun e => by simp [isQuote_iff.2 e] at hq] at h
      rcases tagText_of_tagInside?_eq_none h with ht | ⟨before, q, value, rfl, ht, hq', hv⟩
      · exact .inl (.plain hc hq ht)
      · exact .inr ⟨c :: before, q, value, rfl, .plain hc hq ht, hq', hv⟩
termination_by s.length

/-- What is read as a tag or declaration without its end is one by the grammar. -/
theorem cutTag_of_read {a : Char} {s : List Char} (h : Token.read a s = .error .tag) :
    CutTag (a :: s) := by
  have ha : a = '<' := by
    by_cases ha : a = '<'
    · exact ha
    · rw [Token.read, if_neg ha] at h
      cases h
  subst ha
  rw [Token.read, if_pos rfl, Token.readMarkup] at h
  split at h
  · rw [Token.readThrough] at h
    split at h <;> cases h
  next hcomment =>
  split at h
  · next body hbody =>
    rw [Token.readThrough] at h
    split at h
    · cases h
    next hs =>
    rw [stripPrefix?_eq_some_iff.1 hbody]
    exact .data (by rw [contains, hs]; rfl)
  next hdata =>
  cases s with
  | nil => cases h
  | cons c s =>
    rw [Token.readTag] at h
    split at h
    · next hc =>
      rw [Token.readThrough] at h
      split at h
      · cases h
      next hs =>
      exact .opened (.declaration hc (stripPrefix?_eq_none_iff.1 hcomment)
        (stripPrefix?_eq_none_iff.1 hdata) (splitFirst?_singleton_eq_none hs))
    split at h
    · next hc =>
      subst hc
      rw [Token.readThrough] at h
      split at h
      · cases h
      next hs => exact .opened (.endTag (splitFirst?_singleton_eq_none hs))
    split at h
    · next hc =>
      split at h
      · cases h
      next hs =>
      rcases tagText_of_tagInside?_eq_none hs with ht | ⟨before, q, value, he, ht, hq, hv⟩
      · exact .opened (.startTag hc ht)
      · cases before with
        | nil =>
          obtain ⟨rfl, rfl⟩ := by simpa using he
          rcases isQuote_iff.1 hq with rfl | rfl <;> cases hc
        | cons d before =>
          obtain ⟨rfl, rfl⟩ := by simpa using he
          exact .quoted hc ht hq hv
    · cases h

/-! ### Tokens with more text behind them -/

/-- The end tag of the root without its `>`. -/
def rootEndTag : List Char := '<' :: '/' :: rootElement.toList

/-- What stands behind every fragment: the end tag of the root. -/
def rootEnd : List Char := rootEndTag ++ ['>']

theorem rootEnd_eq : rootEnd = '<' :: '/' :: (rootElement.toList ++ ['>']) := rfl

theorem Token.read_rootEnd :
    Token.read '<' ('/' :: (rootElement.toList ++ ['>'])) = .ok (.endTag rootElement, []) :=
  @Token.read_endTag rootElement.toList (by decide) []

theorem gt_notMem_append_rootEndTag {s : List Char} (h : '>' ∉ s) : '>' ∉ s ++ rootEndTag := by
  intro hmem
  rcases List.mem_append.1 hmem with hs | ht
  · exact h hs
  · exact absurd ht (by decide)

theorem tagInside?_append {quote : Option Char} {s inside rest : List Char}
    (h : Token.tagInside? quote s = some (inside, rest)) (t : List Char) :
    Token.tagInside? quote (s ++ t) = some (inside, rest ++ t) := by
  induction s generalizing quote inside with
  | nil => cases quote <;> cases h
  | cons c s ih =>
    cases quote with
    | some q =>
      obtain ⟨cut, hc, he⟩ := Option.map_eq_some_iff.1 h
      obtain ⟨rfl, rfl⟩ := by simpa using he
      rw [List.cons_append, Token.tagInside?, ih hc, Option.map_some]
    | none =>
      rw [Token.tagInside?] at h
      rw [List.cons_append, Token.tagInside?]
      split at h
      · next hc =>
        obtain ⟨rfl, rfl⟩ := by simpa using h
        rw [if_pos hc]
      · next hc =>
        obtain ⟨cut, hcut, he⟩ := Option.map_eq_some_iff.1 h
        obtain ⟨rfl, rfl⟩ := by simpa using he
        rw [if_neg hc, ih hcut, Option.map_some]

section Append

variable {mark s rest t : List Char} {missing : Token.Unterminated} {make : List Char → Token}
  {token : Token}

theorem readThrough_append (hm : '<' ∉ mark)
    (h : Token.readThrough mark missing make s = .ok (token, rest)) :
    Token.readThrough mark missing make (s ++ '<' :: t) = .ok (token, rest ++ '<' :: t) := by
  obtain ⟨inside, hs, rfl⟩ := Token.eq_of_readThrough h
  rw [Token.readThrough, splitFirst?_append hm, hs]

/-- A mark that is missing in the fragment is missing if the end tag of the root brings none. -/
theorem splitFirst?_rootEnd (hm : '<' ∉ mark) (hr : splitFirst? mark rootEnd = none)
    (hs : splitFirst? mark s = none) : splitFirst? mark (s ++ rootEnd) = none := by
  rw [rootEnd_eq, splitFirst?_append hm, hs]
  exact Option.map_eq_none_iff.2 hr

theorem readText_append (c : Char) (s t : List Char) :
    Token.readText c (s ++ '<' :: t) =
      ((Token.readText c s).1, (Token.readText c s).2 ++ '<' :: t) := by
  have hrun : (s ++ '<' :: t).takeWhile (· != '<') = s.takeWhile (· != '<') ∧
      (s ++ '<' :: t).dropWhile (· != '<') = s.dropWhile (· != '<') ++ '<' :: t := by
    induction s with
    | nil => simp
    | cons d s ih =>
      by_cases hd : d = '<'
      · simp [hd]
      · simp [hd, ih.1, ih.2]
  rw [Token.readText, Token.readText, hrun.1, hrun.2]

theorem readTag_append (h : Token.readTag s = .ok (token, rest)) :
    Token.readTag (s ++ '<' :: t) = .ok (token, rest ++ '<' :: t) := by
  cases s with
  | nil =>
    -- a mark alone is text, whatever markup comes next
    obtain ⟨rfl, rfl⟩ := Prod.mk.inj (Except.ok.inj h)
    rfl
  | cons c s =>
    rw [List.cons_append, Token.readTag]
    rw [Token.readTag] at h
    split at h
    · next hc => rw [if_pos hc, readThrough_append (by decide) h]
    next hc =>
    rw [if_neg hc]
    split at h
    · next hc => rw [if_pos hc, readThrough_append (by decide) h]
    next hc =>
    rw [if_neg hc]
    split at h
    · next hc =>
      rw [if_pos hc]
      split at h
      · next inside rest' hs =>
        obtain ⟨rfl, rfl⟩ := by simpa using h
        rw [← List.cons_append, tagInside?_append hs]
      · cases h
    · next hc =>
      obtain ⟨rfl, rfl⟩ := Prod.mk.inj (Except.ok.inj h)
      rw [if_neg hc, ← List.cons_append, readText_append]
      rfl

/-- A token that ends in a text is the same with markup behind the text. -/
theorem read_append {c : Char} (h : Token.read c s = .ok (token, rest)) :
    Token.read c (s ++ '<' :: t) = .ok (token, rest ++ '<' :: t) := by
  rw [Token.read] at h ⊢
  split at h
  · next hc =>
    rw [if_pos hc]
    rw [Token.readMarkup] at h ⊢
    rw [stripPrefix?_append (by decide), stripPrefix?_append (by decide)]
    split at h
    · next body hbody =>
      rw [hbody]
      exact readThrough_append (by decide) h
    next hcomment =>
    rw [hcomment]
    split at h
    · next body hbody =>
      rw [hbody]
      exact readThrough_append (by decide) h
    next hdata =>
    rw [hdata]
    exact readTag_append h
  · next hc =>
    obtain ⟨rfl, rfl⟩ := Prod.mk.inj (Except.ok.inj h)
    rw [if_neg hc, readText_append]
    rfl

end Append

/-! ### What the end tag of the root makes of tags that are cut off -/

/-- The end tag of the root can stand in a start tag. -/
theorem enclosed_rootEndTag : Token.Enclosed rootEndTag :=
  Token.enclosed_of_plain (by simp [rootEndTag, rootElement])

theorem read_startTag_rootEnd {c : Char} {s : List Char} (hc : isTagLetter c = true)
    (h : TagText (c :: s)) :
    Token.read '<' ((c :: s) ++ rootEnd) = .ok (Token.ofInside (c :: (s ++ rootEndTag)), []) := by
  have hread := Token.read_startTag hc (h.enclosed.append enclosed_rootEndTag) []
  rwa [rootEnd, List.cons_append, ← List.append_assoc]

theorem read_declaration_rootEnd {c : Char} {s : List Char} (hc : c = '!' ∨ c = '?')
    (hcomment : ¬"!--".toList <+: c :: s) (hdata : ¬"![CDATA[".toList <+: c :: s)
    (hs : '>' ∉ s) : Token.read '<' ((c :: s) ++ rootEnd) = .ok (.skipped, []) := by
  have happ : (c :: s) ++ rootEnd = c :: ((s ++ rootEndTag) ++ '>' :: []) := by simp [rootEnd]
  have hmark : ∀ mark : List Char, '<' ∉ mark → ¬mark <+: c :: s →
      ¬mark <+: c :: ((s ++ rootEndTag) ++ '>' :: []) := by
    intro mark hm hn hpre
    rw [← happ, rootEnd_eq] at hpre
    exact hn (prefix_of_prefix_append hm hpre)
  rw [happ]
  exact Token.read_declaration hc (gt_notMem_append_rootEndTag hs)
    (hmark _ (by decide) hcomment) (hmark _ (by decide) hdata)

theorem read_endTag_rootEnd {s : List Char} (hs : '>' ∉ s) :
    Token.read '<' (('/' :: s) ++ rootEnd) =
      .ok (.endTag (elementName (trim (s ++ rootEndTag))), []) := by
  have hread := Token.read_endTag (gt_notMem_append_rootEndTag hs) []
  rwa [rootEnd, List.cons_append, ← List.append_assoc]

/-! ### Tags that the end tag of the root does not end -/

/-- Quotes that do not close hold the end of the tag. -/
theorem read_openQuote {c q : Char} {s value : List Char} (hc : isTagLetter c = true)
    (ht : TagText (c :: s)) (hq : isQuote q = true) (hv : q ∉ value) :
    Token.read '<' (c :: (s ++ q :: value)) = .error .tag := by
  have hg : q ≠ '>' := by
    rintro rfl
    cases hq
  have hi : Token.tagInside? none (c :: (s ++ q :: value)) = none := by
    rw [← List.cons_append, ht.enclosed, Token.tagInside?, if_neg hg, if_pos (isQuote_iff.1 hq),
      tagInside?_of_notMem hv]
    rfl
  rw [Token.read_of_isTagLetter hc, hi]

theorem read_openData {s : List Char} (hs : splitFirst? "]]>".toList s = none) :
    Token.read '<' ("![CDATA[".toList ++ s) = .error .tag := by
  rw [Token.read, if_pos rfl, Token.readMarkup, stripPrefix?_eq_some_iff.2 rfl]
  show Token.readThrough _ _ _ s = _
  rw [Token.readThrough, hs]

theorem read_openComment {s : List Char} (hs : splitFirst? "-->".toList s = none) :
    Token.read '<' ("!--".toList ++ s) = .error .comment := by
  rw [Token.read, if_pos rfl, Token.readMarkup, stripPrefix?_eq_some_iff.2 rfl]
  show Token.readThrough _ _ _ s = _
  rw [Token.readThrough, hs]

/-- A tag that is cut off in quotes, or a character data section, stays without its end. -/
theorem CutTag.read_rootEnd {s : List Char} (h : CutTag s) (ho : ¬OpenTag s) :
    ∃ a s', s = a :: s' ∧ Token.read a (s' ++ rootEnd) = .error .tag := by
  cases h with
  | opened h => exact absurd h ho
  | @quoted c q s value hc ht hq hv =>
    have hmem : q ∉ value ++ rootEnd := by
      rw [List.mem_append, not_or]
      refine ⟨hv, ?_⟩
      rcases isQuote_iff.1 hq with rfl | rfl <;> decide
    refine ⟨'<', _, rfl, ?_⟩
    rw [List.cons_append, List.append_assoc, List.cons_append]
    exact read_openQuote hc ht hq hmem
  | @data s hs =>
    have hnone : splitFirst? "]]>".toList s = none := by
      rwa [contains, Option.isSome_eq_false_iff, Option.isNone_iff_eq_none] at hs
    refine ⟨'<', _, rfl, ?_⟩
    rw [List.append_assoc]
    exact read_openData (splitFirst?_rootEnd (by decide) (by decide) hnone)

theorem readThrough_ne_comment (mark : List Char) (make : List Char → Token) (s : List Char) :
    Token.readThrough mark .tag make s ≠ .error .comment := by
  intro h
  rw [Token.readThrough] at h
  split at h <;> cases h

theorem readTag_ne_comment (s : List Char) : Token.readTag s ≠ .error .comment := by
  intro h
  cases s with
  | nil => cases h
  | cons c s =>
    rw [Token.readTag] at h
    split at h
    · exact readThrough_ne_comment _ _ _ h
    split at h
    · exact readThrough_ne_comment _ _ _ h
    split at h
    · split at h <;> cases h
    · cases h

/-- Nothing else than a comment is read as one without its end. -/
theorem openComment_of_read {a : Char} {s : List Char} (h : Token.read a s = .error .comment) :
    ∃ body, a = '<' ∧ s = "!--".toList ++ body ∧ splitFirst? "-->".toList body = none := by
  rw [Token.read] at h
  split at h
  · next ha =>
    rw [Token.readMarkup] at h
    split at h
    · next body hbody =>
      rw [Token.readThrough] at h
      split at h
      · cases h
      next hs => exact ⟨body, ha, stripPrefix?_eq_some_iff.1 hbody, hs⟩
    split at h
    · exact absurd h (readThrough_ne_comment _ _ _)
    · exact absurd h (readTag_ne_comment _)
  · cases h

/-- A comment that does not end in a text does not end in the end tag of the root. -/
theorem read_comment_rootEnd {a : Char} {s : List Char} (h : Token.read a s = .error .comment) :
    Token.read a (s ++ rootEnd) = .error .comment := by
  obtain ⟨body, rfl, rfl, hs⟩ := openComment_of_read h
  rw [List.append_assoc]
  exact read_openComment (splitFirst?_rootEnd (by decide) (by decide) hs)

/-! ### Slashes in names -/

theorem eq_slash_of_toLower {c : Char} (h : c.toLower = '/') : c = '/' := by
  by_cases hc : c.val ≥ 'A'.val ∧ c.val ≤ 'Z'.val
  · -- no small letter is a slash
    have hu : c.val.toNat ≤ 90 := UInt32.le_iff_toNat_le.1 hc.2
    have hl : 65 ≤ c.val.toNat := UInt32.le_iff_toNat_le.1 hc.1
    have hv : (c.val + ('a'.val - 'A'.val)).toNat = 47 :=
      congrArg Char.toNat ((dif_pos hc).symm.trans h)
    have hd : ('a'.val - 'A'.val).toNat = 32 := rfl
    rw [UInt32.toNat_add] at hv
    omega
  · exact (dif_neg hc).symm.trans h

theorem slash_notMem_startTagName (inside : List Char) :
    '/' ∉ (Token.startTagName inside).toList := by
  intro h
  rw [Token.startTagName, elementName, String.toList_ofList] at h
  obtain ⟨d, hd, heq⟩ := List.mem_map.1 h
  have hne := List.all_eq_true.1 List.all_takeWhile d hd
  simp [eq_slash_of_toLower heq] at hne

theorem slash_mem_elementName {s : List Char} (h : '/' ∈ s) :
    '/' ∈ (elementName (trim s)).toList := by
  rw [elementName, String.toList_ofList]
  exact List.mem_map.2 ⟨'/', mem_trim h (by decide), by decide⟩

end Fragment

end ApiStubs
