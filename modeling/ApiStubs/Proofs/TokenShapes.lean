import ApiStubs.Fragment.Reader
import Mathlib.Data.List.DropRight

/-!
# The written shapes of tokens

What is read of a tag, a comment or a run of text that stands at the front of a text, whatever
follows it. A tag ends at the first `>` outside quotes, an end tag at the first `>` at all.

* `splitFirst?_singleton`, `splitFirst?_commentEnd`: cuts at a known place;
* `Surrounded`, `trim_eq_iff`: a word with blanks around it;
* `Enclosed`: text that can stand inside a start tag;
* `read_endTag`, `read_comment`, `read_declaration`, `read_run`, `read_startTag`: the tokens;
* `Shape`, `shape_of_read`: every token that is read has one of six shapes.
-/

namespace ApiStubs

namespace Text

/-- The first copy of a character is behind any text without it. -/
theorem splitFirst?_append_of_notMem {a : Char} {front : List Char} (h : a ∉ front)
    (s : List Char) : splitFirst? [a] (front ++ s) =
      (splitFirst? [a] s).map fun cut => (front ++ cut.1, cut.2) := by
  induction front with
  | nil => simp
  | cons c front ih =>
    obtain ⟨hc, hfront⟩ := List.ne_and_not_mem_of_not_mem_cons h
    rw [List.cons_append, splitFirst?]
    simp [stripPrefix?, hc, ih hfront, Function.comp_def]

/-- A text is cut before the first copy of a character. -/
theorem splitFirst?_singleton {a : Char} {s : List Char} (h : a ∉ s) (rest : List Char) :
    splitFirst? [a] (s ++ a :: rest) = some (s, rest) := by
  rw [splitFirst?_append_of_notMem h]
  simp [splitFirst?, stripPrefix?]

theorem notMem_of_splitFirst?_singleton {a : Char} {s before after : List Char}
    (h : splitFirst? [a] s = some (before, after)) : a ∉ before := by
  intro hmem
  obtain ⟨front, back, rfl, hfront⟩ := List.eq_append_cons_of_mem hmem
  have hs : s = front ++ a :: (back ++ a :: after) := by
    simpa using eq_append_of_splitFirst? h
  rw [hs, splitFirst?_singleton hfront] at h
  simp at h

theorem splitFirst?_singleton_eq_none {a : Char} {s : List Char} (h : splitFirst? [a] s = none) :
    a ∉ s := by
  intro hs
  obtain ⟨before, after, rfl, hb⟩ := List.eq_append_cons_of_mem hs
  rw [splitFirst?_singleton hb] at h
  cases h

/-- The end of a comment, which no other end can overlap from the left. -/
def commentEnd : List Char := "-->".toList

theorem splitFirst?_commentEnd {s : List Char} (h : contains commentEnd s = false)
    (rest : List Char) : splitFirst? commentEnd (s ++ commentEnd ++ rest) = some (s, rest) := by
  induction s with
  | nil => rfl
  | cons c s ih =>
    have hs : stripPrefix? commentEnd (c :: s) = none ∧ contains commentEnd s = false := by
      rw [contains, splitFirst?] at h
      split at h
      · simp at h
      · next hp => exact ⟨hp, by simpa [contains] using h⟩
    -- an occurrence at `c` would have its `>` inside the text, or where the end has a hyphen
    have hn : stripPrefix? commentEnd (c :: (s ++ commentEnd ++ rest)) = none := by
      rcases s with _ | ⟨d, _ | ⟨e, s⟩⟩
      · simp [commentEnd, stripPrefix?]
      · simp [commentEnd, stripPrefix?]
      · have := hs.1
        simpa [commentEnd, stripPrefix?] using this
    rw [List.cons_append, List.cons_append, splitFirst?, hn, ih hs.2]
    rfl

/-! ### Blanks around a word -/

/-- The word stands in the text with nothing but blanks around it. -/
def Surrounded (word s : List Char) : Prop :=
  ∃ left right, allBlank left = true ∧ allBlank right = true ∧ s = left ++ word ++ right

theorem trim_eq_rdropWhile (s : List Char) :
    trim s = (s.dropWhile isBlank).rdropWhile isBlank := rfl

theorem surrounded_trim (s : List Char) : Surrounded (trim s) s := by
  refine ⟨s.takeWhile isBlank, (s.dropWhile isBlank).rtakeWhile isBlank, ?_, ?_, ?_⟩
  · exact List.all_eq_true.2 fun c hc => List.mem_takeWhile_imp hc
  · exact List.all_eq_true.2 fun c hc => List.mem_rtakeWhile_imp hc
  · rw [trim_eq_rdropWhile, List.append_assoc, List.rdropWhile_append_rtakeWhile,
      List.takeWhile_append_dropWhile]

/-- Blanks are dropped around a word that has none. -/
theorem trim_eq_iff {word s : List Char} (hne : word ≠ []) (hb : word.any isBlank = false) :
    trim s = word ↔ Surrounded word s := by
  have hword : ∀ c ∈ word, ¬isBlank c = true := List.any_eq_false.1 hb
  constructor
  · rintro rfl
    exact surrounded_trim s
  · rintro ⟨left, right, hleft, hright, rfl⟩
    obtain ⟨c, rest, rfl⟩ := List.exists_cons_of_ne_nil hne
    have hstart : (left ++ (c :: rest) ++ right).dropWhile isBlank = c :: rest ++ right := by
      rw [List.append_assoc, List.dropWhile_append_of_pos (List.all_eq_true.1 hleft),
        List.cons_append, List.dropWhile_cons_of_neg (hword c (by simp))]
    have hright' : ∀ d ∈ right.reverse, isBlank d = true := fun d hd =>
      List.all_eq_true.1 hright d (List.mem_reverse.1 hd)
    have hend : (c :: rest).rdropWhile isBlank = c :: rest :=
      List.rdropWhile_eq_self_iff.2 fun hl => hword _ (List.getLast_mem hl)
    rw [trim_eq_rdropWhile, hstart, List.rdropWhile, List.reverse_append,
      List.dropWhile_append_of_pos hright']
    exact hend

end Text

namespace Fragment.Token

open Text

theorem readMarkup_of_ne {c : Char} (h : c ≠ '!') (s : List Char) :
    readMarkup (c :: s) = readTag (c :: s) := by
  simp [readMarkup, stripPrefix?, Ne.symm h]

theorem read_endTag {raw : List Char} (h : '>' ∉ raw) (rest : List Char) :
    read '<' ('/' :: (raw ++ '>' :: rest)) = .ok (.endTag (elementName (trim raw)), rest) := by
  rw [read, if_pos rfl, readMarkup_of_ne (by decide)]
  simp [readTag, readThrough, splitFirst?_singleton h]

theorem read_comment {content : List Char} (h : contains commentEnd content = false)
    (rest : List Char) :
    read '<' ("!--".toList ++ (content ++ commentEnd ++ rest)) = .ok (.skipped, rest) := by
  rw [read, if_pos rfl, readMarkup, stripPrefix?_eq_some_iff.2 rfl]
  have hc := splitFirst?_commentEnd h rest
  rw [commentEnd] at hc
  simp only [readThrough, commentEnd, hc]

theorem read_declaration {c : Char} {content rest : List Char} (hc : c = '!' ∨ c = '?')
    (hgt : '>' ∉ content) (hcomment : ¬"!--".toList <+: c :: (content ++ '>' :: rest))
    (hdata : ¬"![CDATA[".toList <+: c :: (content ++ '>' :: rest)) :
    read '<' (c :: (content ++ '>' :: rest)) = .ok (.skipped, rest) := by
  rw [read, if_pos rfl, readMarkup, stripPrefix?_eq_none_iff.2 hcomment,
    stripPrefix?_eq_none_iff.2 hdata]
  simp only [readTag, if_pos hc, readThrough, splitFirst?_singleton hgt]

/-- A run of text goes up to the next `<`, or to the end. -/
theorem read_run {c : Char} {s rest : List Char} (hc : c ≠ '<') (hs : '<' ∉ s)
    (hr : ∀ d ∈ rest.head?, d = '<') :
    read c (s ++ rest) = .ok (ofRun (c :: s) (CharacterReference.decode (c :: s)), rest) := by
  have ht : ∀ d ∈ s, (d != '<') = true := fun d hd => by
    simpa using fun h : d = '<' => hs (h ▸ hd)
  have hw : rest.takeWhile (· != '<') = [] ∧ rest.dropWhile (· != '<') = rest := by
    cases rest with
    | nil => exact ⟨rfl, rfl⟩
    | cons d rest => simp [hr d rfl]
  rw [read, if_neg hc, readText, List.takeWhile_append_of_pos ht, List.dropWhile_append_of_pos ht,
    hw.1, hw.2, List.append_nil]

/-! ### The inside of a start tag -/

/-- No quote stays open at the end of the text, and the tag does not end in it. -/
def Enclosed (s : List Char) : Prop :=
  ∀ rest, tagInside? none (s ++ rest) =
    (tagInside? none rest).map fun cut => (s ++ cut.1, cut.2)

theorem Enclosed.append {s t : List Char} (hs : Enclosed s) (ht : Enclosed t) :
    Enclosed (s ++ t) := by
  intro rest
  rw [List.append_assoc, hs, ht, Option.map_map]
  simp [Function.comp_def]

theorem enclosed_nil : Enclosed [] := fun rest => by simp

/-- Characters other than quotes and `>`. -/
theorem enclosed_of_plain {s : List Char} (h : ∀ c ∈ s, c ≠ '>' ∧ c ≠ '"' ∧ c ≠ '\'') :
    Enclosed s := by
  induction s with
  | nil => exact enclosed_nil
  | cons c s ih =>
    intro rest
    obtain ⟨hg, hd, ha⟩ := h c (by simp)
    have hs : Enclosed s := ih fun d hd => h d (by simp [hd])
    rw [List.cons_append, tagInside?, if_neg hg, if_neg (by simp [hd, ha]), hs, Option.map_map]
    rfl

/-- Between quotes everything counts but the quote itself. -/
theorem tagInside?_quoted {q : Char} {s : List Char} (h : q ∉ s) (rest : List Char) :
    tagInside? (some q) (s ++ q :: rest) =
      (tagInside? none rest).map fun cut => (s ++ q :: cut.1, cut.2) := by
  induction s with
  | nil => simp [tagInside?]
  | cons c s ih =>
    obtain ⟨hc, hs⟩ := by simpa using h
    rw [List.cons_append, tagInside?, if_neg (Ne.symm hc), ih hs, Option.map_map]
    rfl

theorem enclosed_quoted {s : List Char} (h : '"' ∉ s) : Enclosed ('"' :: (s ++ ['"'])) := by
  intro rest
  have hq := tagInside?_quoted h rest
  simp only [List.cons_append, List.append_assoc, List.nil_append]
  rw [tagInside?, if_neg (by decide), if_pos (by simp), hq, Option.map_map]
  simp [Function.comp_def]

theorem Enclosed.tagInside?_eq {s : List Char} (h : Enclosed s) (rest : List Char) :
    tagInside? none (s ++ '>' :: rest) = some (s, rest) := by
  rw [h]
  simp [tagInside?]

/-- Where a letter follows a `<`, a start tag is read or its end is missing. -/
theorem read_of_isTagLetter {c : Char} (hc : isTagLetter c = true) (s : List Char) :
    read '<' (c :: s) =
      match tagInside? none (c :: s) with
      | some (inside, rest) => .ok (ofInside inside, rest)
      | none => .error .tag := by
  have h1 : c ≠ '!' := fun h => by rw [h] at hc; cases hc
  have h2 : c ≠ '?' := fun h => by rw [h] at hc; cases hc
  have h3 : c ≠ '/' := fun h => by rw [h] at hc; cases hc
  have hread : read '<' (c :: s) = readTag (c :: s) := by
    rw [read, if_pos rfl, readMarkup_of_ne h1]
  rw [hread]
  exact (if_neg (not_or.2 ⟨h1, h2⟩)).trans ((if_neg h3).trans (if_pos hc))

theorem read_startTag {c : Char} {inside : List Char} (hc : isTagLetter c = true)
    (h : Enclosed (c :: inside)) (rest : List Char) :
    read '<' (c :: (inside ++ '>' :: rest)) = .ok (ofInside (c :: inside), rest) := by
  have hi : tagInside? none (c :: (inside ++ '>' :: rest)) = some (c :: inside, rest) :=
    h.tagInside?_eq rest
  rw [read_of_isTagLetter hc, hi]

/-! ### The shapes of what is read -/

/-- The text starts with the token as it is written, and the rest follows. -/
inductive Shape : List Char → Token → List Char → Prop
  | comment (content rest : List Char) :
      Shape ("<!--".toList ++ (content ++ "-->".toList ++ rest)) .skipped rest
  | data (run rest : List Char) :
      Shape ("<![CDATA[".toList ++ (run ++ "]]>".toList ++ rest)) (ofRun run run) rest
  | declaration {c : Char} (hc : c = '!' ∨ c = '?') (content rest : List Char) :
      Shape ('<' :: c :: (content ++ '>' :: rest)) .skipped rest
  | endTag {name : List Char} (hname : '>' ∉ name) (rest : List Char) :
      Shape ('<' :: '/' :: (name ++ '>' :: rest)) (.endTag (elementName (trim name))) rest
  | startTag {c : Char} {s inside rest : List Char} (hc : isTagLetter c = true)
      (hs : c :: s = inside ++ '>' :: rest) : Shape ('<' :: c :: s) (ofInside inside) rest
  /-- A run of text, which may start with a `<` that begins no markup. -/
  | run (c : Char) (s rest : List Char) :
      Shape (c :: (s ++ rest)) (ofRun (c :: s) (CharacterReference.decode (c :: s))) rest

theorem shape_readText (c : Char) (s : List Char) :
    Shape (c :: s) (readText c s).1 (readText c s).2 := by
  have h := Shape.run c (s.takeWhile (· != '<')) (s.dropWhile (· != '<'))
  rwa [List.takeWhile_append_dropWhile] at h

theorem eq_of_readThrough {mark s rest : List Char} {missing : Unterminated}
    {make : List Char → Token} {token : Token}
    (h : readThrough mark missing make s = .ok (token, rest)) :
    ∃ inside, splitFirst? mark s = some (inside, rest) ∧ token = make inside := by
  rw [readThrough] at h
  split at h
  · next inside rest' hs =>
    obtain ⟨rfl, rfl⟩ := by simpa using h
    exact ⟨inside, hs, rfl⟩
  · cases h

theorem shape_of_readTag {s rest : List Char} {token : Token}
    (h : readTag s = .ok (token, rest)) : Shape ('<' :: s) token rest := by
  cases s with
  | nil =>
    obtain ⟨rfl, rfl⟩ := Prod.mk.inj (Except.ok.inj h)
    exact shape_readText '<' []
  | cons c s =>
    rw [readTag] at h
    split at h
    · next hc =>
      obtain ⟨content, hs, rfl⟩ := eq_of_readThrough h
      have hshape := Shape.declaration hc content rest
      rwa [show c :: (content ++ '>' :: rest) = c :: s by
        simp [eq_append_of_splitFirst? hs]] at hshape
    split at h
    · next hc =>
      subst hc
      obtain ⟨name, hs, rfl⟩ := eq_of_readThrough h
      have hshape := Shape.endTag (notMem_of_splitFirst?_singleton hs) rest
      rwa [show '/' :: (name ++ '>' :: rest) = '/' :: s by
        simp [eq_append_of_splitFirst? hs]] at hshape
    split at h
    · next hc =>
      split at h
      · next inside rest' hs =>
        obtain ⟨rfl, rfl⟩ := by simpa using h
        exact .startTag hc (eq_append_of_tagInside? hs)
      · cases h
    · obtain ⟨rfl, rfl⟩ := Prod.mk.inj (Except.ok.inj h)
      exact shape_readText '<' (c :: s)

/-- What is read at the front of a text has one of the shapes. -/
theorem shape_of_read {a : Char} {s rest : List Char} {token : Token}
    (h : read a s = .ok (token, rest)) : Shape (a :: s) token rest := by
  rw [read] at h
  split at h
  · next ha =>
    subst ha
    rw [readMarkup] at h
    split at h
    · next body hbody =>
      obtain ⟨content, hs, rfl⟩ := eq_of_readThrough h
      rw [stripPrefix?_eq_some_iff.1 hbody, eq_append_of_splitFirst? hs]
      exact .comment content rest
    split at h
    · next body hbody =>
      obtain ⟨run, hs, rfl⟩ := eq_of_readThrough h
      rw [stripPrefix?_eq_some_iff.1 hbody, eq_append_of_splitFirst? hs]
      exact .data run rest
    · exact shape_of_readTag h
  · obtain ⟨rfl, rfl⟩ := Prod.mk.inj (Except.ok.inj h)
    exact shape_readText a s

section Shape

variable {text rest : List Char} {token : Token} {name : String} {selfClosing : Bool}

theorem Shape.suffix (h : Shape text token rest) : rest <:+ text := by
  cases h with
  | comment content => exact ⟨"<!--".toList ++ (content ++ "-->".toList), by simp⟩
  | data run => exact ⟨"<![CDATA[".toList ++ (run ++ "]]>".toList), by simp⟩
  | @declaration c hc content => exact ⟨'<' :: c :: (content ++ ['>']), by simp⟩
  | @endTag name => exact ⟨'<' :: '/' :: (name ++ ['>']), by simp⟩
  | @startTag c s inside _ hc hs => exact ⟨'<' :: (inside ++ ['>']), by simp [hs]⟩
  | run c s => exact ⟨c :: s, by simp⟩

theorem ofRun_ne_startTag (run content : List Char) :
    ofRun run content ≠ .startTag name selfClosing := by
  intro h
  rw [ofRun] at h
  split at h <;> cases h

theorem ofRun_ne_endTag (run content : List Char) : ofRun run content ≠ .endTag name := by
  intro h
  rw [ofRun] at h
  split at h <;> cases h

/-- The name of a start tag is that of its inside. -/
theorem Shape.exists_startTagName (h : Shape text token rest)
    (ht : token = .startTag name selfClosing) : ∃ inside, name = startTagName inside := by
  cases h with
  | data run => exact absurd ht (ofRun_ne_startTag _ _)
  | @startTag c s inside => exact ⟨inside, (Token.startTag.inj ht).1.symm⟩
  | run c s => exact absurd ht (ofRun_ne_startTag _ _)
  | _ => cases ht

/-- An end tag is written with its name between a slash and the next `>`. -/
theorem Shape.exists_endTag (h : Shape text token rest) (ht : token = .endTag name) :
    ∃ raw, text = '<' :: '/' :: (raw ++ '>' :: rest) ∧ '>' ∉ raw ∧
      name = elementName (trim raw) := by
  cases h with
  | data run => exact absurd ht (ofRun_ne_endTag _ _)
  | @endTag raw hraw => exact ⟨raw, rfl, hraw, (Token.endTag.inj ht).symm⟩
  | run c s => exact absurd ht (ofRun_ne_endTag _ _)
  | _ => cases ht

end Shape

end Fragment.Token

end ApiStubs
