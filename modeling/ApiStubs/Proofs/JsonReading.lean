import ApiStubs.Json.Printer
import ApiStubs.Json.Reader

/-!
# Reading written JSON

A value that is written, over several lines or without any space, is read back as it was: its text
has the tokens of the value, and the tokens of a value are read as the value, whatever stands behind
them. Values with numbers are left out.

* `Json.tokens`: the tokens of a value;
* `readTokens_tokens`: tokens of a value are read as the value;
* `Json.textual`: a value without numbers, all of whose strings are there;
* `tokenize_renderIndented`, `tokenize_render`: the text of a value has its tokens;
* `read_renderIndented`, `read_toIndentedText`, `read_toText`: the text of a value is read as the
  value, and nothing is left.
-/

namespace ApiStubs.Json

open Text

/-! ### The tokens of a value -/

mutual

/-- The tokens of a value. -/
def tokens : Json → List Token
  | .null => [.null]
  | .bool b => [.bool b]
  | .number n => [.number n]
  | .text s => [.text s]
  | .array [] => [.openArray, .closeArray]
  | .array (v :: items) => .openArray :: (v.tokens ++ itemTokens items ++ [.closeArray])
  | .object [] => [.openObject, .closeObject]
  | .object ((key, v) :: members) =>
    .openObject :: .text key :: .colon :: (v.tokens ++ memberTokens members ++ [.closeObject])
  | .broken => []

/-- The tokens of the items after the first. -/
def itemTokens : List Json → List Token
  | [] => []
  | v :: items => .comma :: (v.tokens ++ itemTokens items)

/-- The tokens of the members after the first. -/
def memberTokens : List (Option String × Json) → List Token
  | [] => []
  | (key, v) :: members => .comma :: .text key :: .colon :: (v.tokens ++ memberTokens members)

end

/-- The first token of a complete value starts a value. -/
theorem exists_start?_tokens {v : Json} (hv : v.complete = true) :
    ∃ t later due, v.tokens = t :: later ∧ t ≠ .closeArray ∧ t.start? = some due := by
  cases v with
  | null => exact ⟨_, _, _, rfl, by decide, rfl⟩
  | bool b => exact ⟨_, _, _, rfl, nofun, rfl⟩
  | number n => exact ⟨_, _, _, rfl, nofun, rfl⟩
  | text s => exact ⟨_, _, _, rfl, nofun, rfl⟩
  | array items => cases items <;> exact ⟨_, _, _, rfl, nofun, rfl⟩
  | object members => cases members <;> exact ⟨_, _, _, rfl, nofun, rfl⟩
  | broken => cases hv

/-- The first item of an array is read like any other. -/
theorem readTokens_item {v : Json} (hv : v.complete = true) (stack : List Frame)
    (rest : List Token) :
    readTokens .item stack (v.tokens ++ rest) =
      readTokens .value (.array [] :: stack) (v.tokens ++ rest) := by
  obtain ⟨t, later, due, ht, hne, hdue⟩ := exists_start?_tokens hv
  rw [ht, List.cons_append, readTokens, readTokens, if_neg hne, hdue]

mutual

/-- The tokens of a value are read as the value, whatever containers wait and whatever follows. -/
theorem readTokens_tokens (v : Json) (hv : v.complete = true) (stack : List Frame)
    (rest : List Token) :
    readTokens .value stack (v.tokens ++ rest) = readTokens (.separator v) stack rest := by
  match v with
  | .null => rfl
  | .bool _ => rfl
  | .number _ => rfl
  | .text _ => rfl
  | .array [] => rfl
  | .array (v :: items) =>
    obtain ⟨hv, hitems⟩ := Bool.and_eq_true_iff.1 hv
    have hopen : readTokens .value stack ((Json.array (v :: items)).tokens ++ rest) =
        readTokens .item stack (v.tokens ++ (itemTokens items ++ .closeArray :: rest)) := by
      simp [tokens, readTokens, Token.start?]
    -- the array waits on the stack until the last of its items is read
    rw [hopen, readTokens_item hv, readTokens_tokens v hv, readTokens_itemTokens items hitems]
    rfl
  | .object [] => rfl
  | .object ((key, v) :: members) =>
    obtain ⟨hv, hmembers⟩ := Bool.and_eq_true_iff.1 hv
    have hopen : readTokens .value stack ((Json.object ((key, v) :: members)).tokens ++ rest) =
        readTokens .value (.object [] key :: stack)
          (v.tokens ++ (memberTokens members ++ .closeObject :: rest)) := by
      simp [tokens, readTokens, Token.start?]
    rw [hopen, readTokens_tokens v hv, readTokens_memberTokens members hmembers]
    rfl

/-- The items after some that have been read. -/
theorem readTokens_itemTokens (items : List Json) (hitems : allComplete items = true) (u : Json)
    (done : List Json) (stack : List Frame) (rest : List Token) :
    readTokens (.separator u) (.array done :: stack) (itemTokens items ++ .closeArray :: rest) =
      readTokens (.separator (.array ((u :: done).reverse ++ items))) stack rest := by
  match items with
  | [] =>
    simp [itemTokens, readTokens]
  | v :: items =>
    obtain ⟨hv, hitems⟩ := Bool.and_eq_true_iff.1 hitems
    have hcomma : readTokens (.separator u) (.array done :: stack)
        (itemTokens (v :: items) ++ .closeArray :: rest) =
          readTokens .value (.array (u :: done) :: stack)
            (v.tokens ++ (itemTokens items ++ .closeArray :: rest)) := by
      simp [itemTokens, readTokens]
    rw [hcomma, readTokens_tokens v hv, readTokens_itemTokens items hitems]
    simp

/-- The members after some that have been read. -/
theorem readTokens_memberTokens (members : List (Option String × Json))
    (hmembers : membersComplete members = true) (key : Option String) (u : Json)
    (done : List (Option String × Json)) (stack : List Frame) (rest : List Token) :
    readTokens (.separator u) (.object done key :: stack)
        (memberTokens members ++ .closeObject :: rest) =
      readTokens (.separator (.object (((key, u) :: done).reverse ++ members))) stack rest := by
  match members with
  | [] =>
    simp [memberTokens, readTokens]
  | (next, v) :: members =>
    obtain ⟨hv, hmembers⟩ := Bool.and_eq_true_iff.1 hmembers
    have hcomma : readTokens (.separator u) (.object done key :: stack)
        (memberTokens ((next, v) :: members) ++ .closeObject :: rest) =
          readTokens .value (.object ((key, u) :: done) next :: stack)
            (v.tokens ++ (memberTokens members ++ .closeObject :: rest)) := by
      simp [memberTokens, readTokens]
    rw [hcomma, readTokens_tokens v hv, readTokens_memberTokens members hmembers]
    simp

end

/-! ### Strings -/

/-- What a character is written with inside a string. -/
def glyph (c : Char) : Glyph :=
  if c.toNat < 0x20 ∧ c ∉ ['\x08', '\x0c', '\n', '\r', '\t'] then .unit c.toNat else .char c

/-- What is left to read of a string, with a glyph in front. -/
def withGlyph (g : Glyph) (read : Option (List Glyph × List Char)) :
    Option (List Glyph × List Char) :=
  read.map fun (glyphs, rest) => (g :: glyphs, rest)

theorem hexUnit?_hexDigit {n : Nat} (h : n < 0x20) :
    hexUnit? '0' '0' (hexDigit (n / 16)) (hexDigit (n % 16)) = some n := by
  have hall : ∀ n < 0x20, hexUnit? '0' '0' (hexDigit (n / 16)) (hexDigit (n % 16)) = some n := by
    decide
  exact hall n h

theorem readGlyphs_short {e c : Char} (h : shortEscape? e = some c) (s : List Char) :
    readGlyphs ('\\' :: e :: s) = withGlyph (.char c) (readGlyphs s) := by
  -- the letter of a longer escape is no short one
  have hu : ∀ a b c d t, e = 'u' → s = a :: b :: c :: d :: t → False := by
    rintro a b c d t rfl
    cases h
  rw [readGlyphs.eq_4 e s hu, h]
  cases readGlyphs s <;> rfl

theorem readGlyphs_unit {n : Nat} (h : n < 0x20) (s : List Char) :
    readGlyphs ('\\' :: 'u' :: '0' :: '0' :: hexDigit (n / 16) :: hexDigit (n % 16) :: s) =
      withGlyph (.unit n) (readGlyphs s) := by
  rw [readGlyphs, hexUnit?_hexDigit h]
  cases readGlyphs s <;> rfl

theorem readGlyphs_char {c : Char} (hq : c ≠ '"') (hb : c ≠ '\\') (h : ¬c.toNat < 0x20)
    (s : List Char) : readGlyphs (c :: s) = withGlyph (.char c) (readGlyphs s) := by
  have hplain : ¬(c.toNat < 0x20 ∨ c = '\\') := not_or.2 ⟨h, hb⟩
  rw [readGlyphs.eq_5 c s hq (fun _ _ _ _ _ he _ => hb he) (fun _ _ he _ => hb he), if_neg hplain]
  cases readGlyphs s <;> rfl

theorem readGlyphs_escapeChar (c : Char) (s : List Char) :
    readGlyphs (escapeChar c ++ s) = withGlyph (glyph c) (readGlyphs s) := by
  unfold escapeChar
  split
  · next h => subst h; exact readGlyphs_short rfl s
  split
  · next h => subst h; exact readGlyphs_short rfl s
  split
  · next h => subst h; exact readGlyphs_short rfl s
  split
  · next h => subst h; exact readGlyphs_short rfl s
  split
  · next h => subst h; exact readGlyphs_short rfl s
  split
  · next h => subst h; exact readGlyphs_short rfl s
  split
  · next h => subst h; exact readGlyphs_short rfl s
  split
  · next hq hb h8 hc hn hr ht h =>
    rw [glyph, if_pos ⟨h, by simp [h8, hc, hn, hr, ht]⟩]
    exact readGlyphs_unit h s
  · next hq hb h8 hc hn hr ht h =>
    rw [glyph, if_neg fun hg => h hg.1]
    exact readGlyphs_char hq hb h s

theorem assemble?_unit {n : Nat} (h : n < 0x20) (glyphs : List Glyph) :
    assemble? (.unit n :: glyphs) = (assemble? glyphs).map (Char.ofNat n :: ·) := by
  have hhigh : isHighSurrogate n = false := by simp [isHighSurrogate]; omega
  have hlow : isLowSurrogate n = false := by simp [isLowSurrogate]; omega
  match glyphs with
  | [] => simp [assemble?, hhigh, hlow]
  | .char _ :: _ => simp [assemble?, hhigh, hlow]
  | .unit _ :: _ => simp [assemble?, hhigh, hlow]

/-- The glyph of a character makes it again. -/
theorem assemble?_glyph (c : Char) (glyphs : List Glyph) :
    assemble? (glyph c :: glyphs) = (assemble? glyphs).map (c :: ·) := by
  rw [glyph]
  split
  · next h => rw [assemble?_unit h.1, Char.ofNat_toNat]
  · rfl

/-- A string is read up to its closing quote. -/
theorem readGlyphs_escaped (cs rest : List Char) :
    readGlyphs (cs.flatMap escapeChar ++ '"' :: rest) = some (cs.map glyph, rest) := by
  induction cs with
  | nil => rfl
  | cons c cs ih =>
    rw [List.flatMap_cons, List.append_assoc, readGlyphs_escapeChar, ih]
    rfl

theorem assemble?_map_glyph (cs : List Char) : assemble? (cs.map glyph) = some cs := by
  induction cs with
  | nil => rfl
  | cons c cs ih =>
    rw [List.map_cons, assemble?_glyph, ih]
    rfl

theorem tokenize_renderText (s : String) (rest : List Char) :
    tokenize (renderText s ++ rest) = .text (some s) :: tokenize rest := by
  have hread : Token.read '"' (s.toList.flatMap escapeChar ++ '"' :: rest) =
      some (.text (some s), rest) := by
    show (readGlyphs _).map (fun cut => (Token.ofGlyphs cut.1, cut.2)) = _
    rw [readGlyphs_escaped, Option.map_some, Token.ofGlyphs, assemble?_map_glyph, Option.map_some,
      String.ofList_toList]
  have htext : renderText s ++ rest = '"' :: (s.toList.flatMap escapeChar ++ '"' :: rest) := by
    simp [renderText]
  rw [htext, tokenize_cons (by decide) hread]

/-! ### Values over several lines -/

mutual

/-- The value holds no number and no broken place, and its strings and keys are all there. -/
def textual : Json → Bool
  | .null => true
  | .bool _ => true
  | .number _ => false
  | .text s => s.isSome
  | .array items => allTextual items
  | .object members => membersTextual members
  | .broken => false

/-- Every item is textual. -/
def allTextual : List Json → Bool
  | [] => true
  | v :: items => v.textual && allTextual items

/-- Every member is textual. -/
def membersTextual : List (Option String × Json) → Bool
  | [] => true
  | (key, v) :: members => key.isSome && v.textual && membersTextual members

end

mutual

theorem complete_of_textual {v : Json} (h : v.textual = true) : v.complete = true := by
  match v with
  | .null => rfl
  | .bool _ => rfl
  | .text _ => rfl
  | .array _ => exact allComplete_of_textual h
  | .object _ => exact membersComplete_of_textual h

theorem allComplete_of_textual {items : List Json} (h : allTextual items = true) :
    allComplete items = true := by
  match items with
  | [] => rfl
  | v :: items =>
    obtain ⟨hv, hitems⟩ := Bool.and_eq_true_iff.1 h
    exact Bool.and_eq_true_iff.2 ⟨complete_of_textual hv, allComplete_of_textual hitems⟩

theorem membersComplete_of_textual {members : List (Option String × Json)}
    (h : membersTextual members = true) : membersComplete members = true := by
  match members with
  | [] => rfl
  | (key, v) :: members =>
    obtain ⟨hkey, hmembers⟩ := Bool.and_eq_true_iff.1 h
    obtain ⟨-, hv⟩ := Bool.and_eq_true_iff.1 hkey
    exact Bool.and_eq_true_iff.2 ⟨complete_of_textual hv, membersComplete_of_textual hmembers⟩

end

theorem tokenize_space {c : Char} (hc : isSpace c = true) (rest : List Char) :
    tokenize (c :: rest) = tokenize rest := by
  rw [tokenize, if_pos hc]

theorem tokenize_newlineAt (level : Nat) (rest : List Char) :
    tokenize (newlineAt level ++ rest) = tokenize rest := by
  rw [newlineAt, List.cons_append, tokenize_space (by decide)]
  induction 2 * level with
  | zero => rfl
  | succ n ih =>
    rw [List.replicate_succ, List.cons_append, tokenize_space (by decide), ih]

theorem tokenize_openArray (rest : List Char) :
    tokenize ('[' :: rest) = .openArray :: tokenize rest :=
  tokenize_cons (by decide) rfl

theorem tokenize_closeArray (rest : List Char) :
    tokenize (']' :: rest) = .closeArray :: tokenize rest :=
  tokenize_cons (by decide) rfl

theorem tokenize_openObject (rest : List Char) :
    tokenize ('{' :: rest) = .openObject :: tokenize rest :=
  tokenize_cons (by decide) rfl

theorem tokenize_closeObject (rest : List Char) :
    tokenize ('}' :: rest) = .closeObject :: tokenize rest :=
  tokenize_cons (by decide) rfl

theorem tokenize_comma (rest : List Char) : tokenize (',' :: rest) = .comma :: tokenize rest :=
  tokenize_cons (by decide) rfl

theorem tokenize_colon (rest : List Char) :
    tokenize (':' :: ' ' :: rest) = .colon :: tokenize rest := by
  rw [tokenize_cons (by decide) rfl, tokenize_space (by decide)]

theorem tokenize_null (rest : List Char) :
    tokenize ("null".toList ++ rest) = .null :: tokenize rest :=
  tokenize_cons (by decide) rfl

theorem tokenize_bool (b : Bool) (rest : List Char) :
    tokenize ((if b then "true".toList else "false".toList) ++ rest) =
      .bool b :: tokenize rest := by
  cases b with
  | false => exact tokenize_cons (by decide) rfl
  | true => exact tokenize_cons (by decide) rfl

mutual

/-- The text of a value has the tokens of the value, whatever follows. -/
theorem tokenize_renderIndented (v : Json) (hv : v.textual = true) (level : Nat)
    (rest : List Char) :
    tokenize (renderIndented level v ++ rest) = v.tokens ++ tokenize rest := by
  match v with
  | .null => exact tokenize_null rest
  | .bool b => exact tokenize_bool b rest
  | .text (some s) => exact tokenize_renderText s rest
  | .array [] => exact (tokenize_openArray _).trans (congrArg _ (tokenize_closeArray rest))
  | .array (v :: items) =>
    obtain ⟨hv, hitems⟩ := Bool.and_eq_true_iff.1 hv
    simp only [renderIndented, List.append_assoc, List.cons_append, List.nil_append, tokens]
    rw [tokenize_openArray, tokenize_newlineAt, tokenize_renderIndented v hv,
      tokenize_renderIndentedItems items hitems, tokenize_newlineAt, tokenize_closeArray]
  | .object [] => exact (tokenize_openObject _).trans (congrArg _ (tokenize_closeObject rest))
  | .object ((some key, v) :: members) =>
    obtain ⟨hv, hmembers⟩ := Bool.and_eq_true_iff.1 hv
    simp only [renderIndented, List.append_assoc, List.cons_append, List.nil_append, tokens,
      renderText?, Option.getD_some]
    rw [tokenize_openObject, tokenize_newlineAt, tokenize_renderText, tokenize_colon,
      tokenize_renderIndented v hv, tokenize_renderIndentedMembers members hmembers,
      tokenize_newlineAt, tokenize_closeObject]

/-- The items after the first. -/
theorem tokenize_renderIndentedItems (items : List Json) (hitems : allTextual items = true)
    (level : Nat) (rest : List Char) :
    tokenize (renderIndentedItems level items ++ rest) = itemTokens items ++ tokenize rest := by
  match items with
  | [] => rfl
  | v :: items =>
    obtain ⟨hv, hitems⟩ := Bool.and_eq_true_iff.1 hitems
    simp only [renderIndentedItems, List.append_assoc, List.cons_append, itemTokens]
    rw [tokenize_comma, tokenize_newlineAt, tokenize_renderIndented v hv,
      tokenize_renderIndentedItems items hitems]

/-- The members after the first. -/
theorem tokenize_renderIndentedMembers (members : List (Option String × Json))
    (hmembers : membersTextual members = true) (level : Nat) (rest : List Char) :
    tokenize (renderIndentedMembers level members ++ rest) =
      memberTokens members ++ tokenize rest := by
  match members with
  | [] => rfl
  | (some key, v) :: members =>
    obtain ⟨hv, hmembers⟩ := Bool.and_eq_true_iff.1 hmembers
    simp only [renderIndentedMembers, List.append_assoc, List.cons_append, List.nil_append,
      memberTokens, renderText?, Option.getD_some]
    rw [tokenize_comma, tokenize_newlineAt, tokenize_renderText, tokenize_colon,
      tokenize_renderIndented v hv, tokenize_renderIndentedMembers members hmembers]

end

theorem tokenize_nil : tokenize [] = [] := by
  rw [tokenize]

/-- The text of a value is read as the value, whatever blanks follow. -/
theorem read_renderIndented {v : Json} (hv : v.textual = true) (level : Nat) {rest : List Char}
    (hrest : tokenize rest = []) :
    read (String.ofList (renderIndented level v ++ rest)) = ⟨v, true⟩ := by
  have htokens : tokenize (String.ofList (renderIndented level v ++ rest)).toList =
      v.tokens ++ [] := by
    rw [String.toList_ofList, tokenize_renderIndented v hv, hrest]
  rw [read, htokens, readTokens_tokens v (complete_of_textual hv)]
  rfl

/-- The text of a value is read as the value, and nothing is left. -/
theorem read_toIndentedText {v : Json} (hv : v.textual = true) :
    read v.toIndentedText = ⟨v, true⟩ :=
  read_renderIndented hv 0 (by rw [tokenize_space (by decide), tokenize_nil])

/-- The text of an array stands between its brackets. -/
theorem renderIndented_array (level : Nat) (items : List Json) :
    ∃ inside, renderIndented level (.array items) = '[' :: (inside ++ [']']) := by
  cases items with
  | nil => exact ⟨[], rfl⟩
  | cons v items => exact ⟨_, rfl⟩

/-! ### Values without space -/

/-- The tokens of items, with commas between them. -/
def listTokens : List Json → List Token
  | [] => []
  | v :: items => v.tokens ++ itemTokens items

/-- The tokens of members, with commas between them. -/
def mapTokens : List (Option String × Json) → List Token
  | [] => []
  | (key, v) :: members => .text key :: .colon :: (v.tokens ++ memberTokens members)

theorem tokens_array (items : List Json) :
    (Json.array items).tokens = .openArray :: (listTokens items ++ [.closeArray]) := by
  cases items <;> simp [tokens, listTokens]

theorem tokens_object (members : List (Option String × Json)) :
    (Json.object members).tokens = .openObject :: (mapTokens members ++ [.closeObject]) := by
  cases members <;> simp [tokens, mapTokens]

theorem tokenize_colonAlone (rest : List Char) :
    tokenize (':' :: rest) = .colon :: tokenize rest :=
  tokenize_cons (by decide) rfl

mutual

/-- The text of a value without space has the tokens of the value, whatever follows. -/
theorem tokenize_render (v : Json) (hv : v.textual = true) (rest : List Char) :
    tokenize (v.render ++ rest) = v.tokens ++ tokenize rest := by
  match v with
  | .null => exact tokenize_null rest
  | .bool b => exact tokenize_bool b rest
  | .text (some s) => exact tokenize_renderText s rest
  | .array items =>
    have htext : (Json.array items).render ++ rest = '[' :: (renderItems items ++ ']' :: rest) := by
      simp [render]
    rw [htext, tokenize_openArray, tokenize_renderItems items hv, tokenize_closeArray, tokens_array]
    simp
  | .object members =>
    have htext : (Json.object members).render ++ rest =
        '\x7b' :: (renderMembers members ++ '\x7d' :: rest) := by
      simp [render]
    rw [htext, tokenize_openObject, tokenize_renderMembers members hv, tokenize_closeObject,
      tokens_object]
    simp

/-- The items of an array. -/
theorem tokenize_renderItems (items : List Json) (hitems : allTextual items = true)
    (rest : List Char) :
    tokenize (renderItems items ++ rest) = listTokens items ++ tokenize rest := by
  match items with
  | [] => rfl
  | [v] =>
    obtain ⟨hv, -⟩ := Bool.and_eq_true_iff.1 hitems
    rw [renderItems, tokenize_render v hv]
    simp [listTokens, itemTokens]
  | v :: u :: items =>
    obtain ⟨hv, hitems⟩ := Bool.and_eq_true_iff.1 hitems
    have hmore := tokenize_renderItems (u :: items) hitems rest
    simp only [renderItems, List.append_assoc, List.cons_append, listTokens, itemTokens] at hmore ⊢
    rw [tokenize_render v hv, tokenize_comma, hmore]

/-- The members of an object. -/
theorem tokenize_renderMembers (members : List (Option String × Json))
    (hmembers : membersTextual members = true) (rest : List Char) :
    tokenize (renderMembers members ++ rest) = mapTokens members ++ tokenize rest := by
  match members with
  | [] => rfl
  | [(some key, v)] =>
    obtain ⟨hv, -⟩ := Bool.and_eq_true_iff.1 hmembers
    simp only [renderMembers, List.append_assoc, List.cons_append, renderText?, Option.getD_some]
    rw [tokenize_renderText, tokenize_colonAlone, tokenize_render v hv]
    simp [mapTokens, memberTokens]
  | (some key, v) :: m :: members =>
    obtain ⟨hv, hmembers⟩ := Bool.and_eq_true_iff.1 hmembers
    have hmore := tokenize_renderMembers (m :: members) hmembers rest
    simp only [renderMembers, List.append_assoc, List.cons_append, renderText?, Option.getD_some]
    rw [tokenize_renderText, tokenize_colonAlone, tokenize_render v hv, tokenize_comma, hmore]
    simp [mapTokens, memberTokens]

end

/-- The text of a value without space is read as the value, and nothing is left. -/
theorem read_toText {v : Json} (hv : v.textual = true) : read v.toText = ⟨v, true⟩ := by
  have htokens : tokenize v.toText.toList = v.tokens ++ [] := by
    rw [toText, String.toList_ofList, ← List.append_nil v.render, tokenize_render v hv,
      tokenize_nil]
  rw [read, htokens, readTokens_tokens v (complete_of_textual hv)]
  rfl

end ApiStubs.Json
