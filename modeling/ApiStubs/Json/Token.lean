import ApiStubs.Json.Value
import ApiStubs.Text.Digit
import ApiStubs.Text.Search

/-!
# Tokens of JSON

A text as a sequence of brackets, separators, words, numbers and strings. The first place that
starts no token ends the sequence with `bad`.

* `Token`: the tokens;
* `Glyph`, `assemble?`: what a string is written with, and the text it makes;
* `readString`, `readNumeral`, `Token.read`: a token at the front of a text;
* `tokenize`: all tokens of a text.
-/

namespace ApiStubs.Json

open Text

/-- A lexical unit. -/
inductive Token where
  | openArray
  | closeArray
  | openObject
  | closeObject
  | comma
  | colon
  | null
  | bool (b : Bool)
  | number (n : Numeral)
  | text (s : Option String)
  /-- Nothing from here on is a token. -/
  | bad
  deriving DecidableEq, Repr

/-! ### Strings -/

/-- What a string is written with: characters, and escapes that give 16 bits of one. -/
inductive Glyph where
  | char (c : Char)
  | unit (n : Nat)
  deriving DecidableEq, Repr

/-- The first half of a character beyond 16 bits. -/
def isHighSurrogate (n : Nat) : Bool := decide (0xD800 ≤ n) && decide (n ≤ 0xDBFF)

/-- The second half of a character beyond 16 bits. -/
def isLowSurrogate (n : Nat) : Bool := decide (0xDC00 ≤ n) && decide (n ≤ 0xDFFF)

/-- The character of two halves. -/
def joinSurrogates (high low : Nat) : Char :=
  Char.ofNat (0x10000 + (high - 0xD800) * 0x400 + (low - 0xDC00))

/-- The text of a string, unless half of a character stands alone. -/
def assemble? : List Glyph → Option (List Char)
  | [] => some []
  | .char c :: glyphs => (assemble? glyphs).map (c :: ·)
  | .unit high :: .unit low :: glyphs =>
    if isHighSurrogate high then
      if isLowSurrogate low then (assemble? glyphs).map (joinSurrogates high low :: ·) else none
    else if isLowSurrogate high then none
    else (assemble? (.unit low :: glyphs)).map (Char.ofNat high :: ·)
  | .unit n :: glyphs =>
    if isHighSurrogate n || isLowSurrogate n then none
    else (assemble? glyphs).map (Char.ofNat n :: ·)

/-- The number of four hexadecimal digits. -/
def hexUnit? (a b c d : Char) : Option Nat := (digitsOf? 16 [a, b, c, d]).map (numberOf 16)

/-- The character of an escape with one letter. -/
def shortEscape? : Char → Option Char
  | '"' => some '"'
  | '\\' => some '\\'
  | '/' => some '/'
  | 'b' => some '\x08'
  | 'f' => some '\x0c'
  | 'n' => some '\n'
  | 'r' => some '\r'
  | 't' => some '\t'
  | _ => none

/-- The glyphs of a string after its opening quote, and what follows its closing quote. -/
def readGlyphs : List Char → Option (List Glyph × List Char)
  | [] => none
  | '"' :: s => some ([], s)
  | '\\' :: 'u' :: a :: b :: c :: d :: s => do
    let n ← hexUnit? a b c d
    let (glyphs, rest) ← readGlyphs s
    some (.unit n :: glyphs, rest)
  | '\\' :: e :: s => do
    let c ← shortEscape? e
    let (glyphs, rest) ← readGlyphs s
    some (.char c :: glyphs, rest)
  | c :: s =>
    if c.toNat < 0x20 ∨ c = '\\' then none
    else do
      let (glyphs, rest) ← readGlyphs s
      some (.char c :: glyphs, rest)

/-- The token of a string with these glyphs. -/
def Token.ofGlyphs (glyphs : List Glyph) : Token := .text ((assemble? glyphs).map String.ofList)

/-! ### Numbers -/

/-- The digits at the front of a text, and the rest. -/
def readDigits : List Char → List Nat × List Char
  | [] => ([], [])
  | c :: s =>
    match digitOf? 10 c with
    | some d => let cut := readDigits s; (d :: cut.1, cut.2)
    | none => ([], c :: s)

/-- At least one digit. -/
def readDigits? (s : List Char) : Option (List Nat × List Char) :=
  match readDigits s with
  | ([], _) => none
  | cut => some cut

/-- A whole number, which starts with zero only if it is zero. -/
def readWhole? (s : List Char) : Option (List Nat × List Char) :=
  match readDigits s with
  | ([], _) => none
  | (0 :: _ :: _, _) => none
  | cut => some cut

/-- The digits after a point, if there is one. -/
def readFraction? : List Char → Option (List Nat × List Char)
  | [] => some ([], [])
  | c :: s => if c = '.' then readDigits? s else some ([], c :: s)

/-- The sign of an exponent, if one is written. -/
def readSign : List Char → Bool × List Char
  | [] => (false, [])
  | c :: s => if c = '-' then (true, s) else if c = '+' then (false, s) else (false, c :: s)

/-- The sign and digits of an exponent, if there is one. -/
def readExponent? : List Char → Option (Option (Bool × List Nat) × List Char)
  | [] => some (none, [])
  | c :: s =>
    if c = 'e' ∨ c = 'E' then
      (readDigits? (readSign s).2).map fun cut => (some ((readSign s).1, cut.1), cut.2)
    else some (none, c :: s)

/-- A number after its sign. -/
def readNumeral? (negative : Bool) (s : List Char) : Option (Numeral × List Char) := do
  let (whole, s) ← readWhole? s
  let (fraction, s) ← readFraction? s
  let (exponent, s) ← readExponent? s
  some (⟨negative, whole, fraction, exponent⟩, s)

/-! ### Texts -/

/-- Blanks between tokens. -/
def isSpace (c : Char) : Bool := c == ' ' || c == '\n' || c == '\t' || c == '\r'

/-- The token that a character other than a blank starts, and what follows it. -/
def Token.read (c : Char) (s : List Char) : Option (Token × List Char) :=
  match c with
  | '[' => some (.openArray, s)
  | ']' => some (.closeArray, s)
  | '{' => some (.openObject, s)
  | '}' => some (.closeObject, s)
  | ',' => some (.comma, s)
  | ':' => some (.colon, s)
  | '"' => (readGlyphs s).map fun cut => (.ofGlyphs cut.1, cut.2)
  | 'n' => (stripPrefix? "ull".toList s).map fun rest => (.null, rest)
  | 't' => (stripPrefix? "rue".toList s).map fun rest => (.bool true, rest)
  | 'f' => (stripPrefix? "alse".toList s).map fun rest => (.bool false, rest)
  | '-' => (readNumeral? true s).map fun cut => (.number cut.1, cut.2)
  | c => (readNumeral? false (c :: s)).map fun cut => (.number cut.1, cut.2)

/-! ### A token is never empty -/

theorem length_lt_of_readGlyphs {s rest : List Char} {glyphs : List Glyph}
    (h : readGlyphs s = some (glyphs, rest)) : rest.length < s.length := by
  fun_induction readGlyphs s generalizing glyphs with
  | case1 => simp at h
  | case2 s =>
    obtain ⟨-, rfl⟩ := by simpa using h
    simp
  | case3 a b c d s ih =>
    simp only [Option.bind_eq_bind, Option.bind_eq_some_iff] at h
    obtain ⟨n, -, cut, hc, he⟩ := h
    obtain ⟨-, rfl⟩ := by simpa using he
    have := ih hc
    simp only [List.length_cons]
    omega
  | case4 e s _ ih =>
    simp only [Option.bind_eq_bind, Option.bind_eq_some_iff] at h
    obtain ⟨c, -, cut, hc, he⟩ := h
    obtain ⟨-, rfl⟩ := by simpa using he
    have := ih hc
    simp only [List.length_cons]
    omega
  | case5 => simp at h
  | case6 c s _ _ _ _ ih =>
    simp only [Option.bind_eq_bind, Option.bind_eq_some_iff] at h
    obtain ⟨cut, hc, he⟩ := h
    obtain ⟨-, rfl⟩ := by simpa using he
    have := ih hc
    simp only [List.length_cons]
    omega

theorem length_readDigits (s : List Char) :
    (readDigits s).1.length + (readDigits s).2.length = s.length := by
  induction s with
  | nil => rfl
  | cons c s ih =>
    rw [readDigits]
    split
    · simp only [List.length_cons]
      omega
    · simp

theorem length_lt_of_readDigits? {s rest : List Char} {digits : List Nat}
    (h : readDigits? s = some (digits, rest)) : rest.length < s.length := by
  have hl := length_readDigits s
  rw [readDigits?] at h
  split at h
  · simp at h
  · next cut hcut =>
    simp only [Option.some.injEq] at h
    rw [h] at hl hcut
    cases digits with
    | nil => exact absurd rfl (hcut rest)
    | cons d digits =>
      simp only [List.length_cons] at hl
      omega

theorem length_lt_of_readWhole? {s rest : List Char} {digits : List Nat}
    (h : readWhole? s = some (digits, rest)) : rest.length < s.length := by
  have hl := length_readDigits s
  rw [readWhole?] at h
  split at h
  · simp at h
  · simp at h
  · next cut hcut _ =>
    simp only [Option.some.injEq] at h
    rw [h] at hl hcut
    cases digits with
    | nil => exact absurd rfl (hcut rest)
    | cons d digits =>
      simp only [List.length_cons] at hl
      omega

theorem length_le_of_readFraction? {s rest : List Char} {digits : List Nat}
    (h : readFraction? s = some (digits, rest)) : rest.length ≤ s.length := by
  cases s with
  | nil =>
    obtain ⟨-, rfl⟩ := by simpa [readFraction?] using h
    exact Nat.le_refl _
  | cons c s =>
    rw [readFraction?] at h
    split at h
    · have := length_lt_of_readDigits? h
      simp only [List.length_cons]
      omega
    · obtain ⟨-, rfl⟩ := by simpa using h
      exact Nat.le_refl _

theorem length_le_of_readSign (s : List Char) : (readSign s).2.length ≤ s.length := by
  cases s with
  | nil => exact Nat.le_refl _
  | cons c s =>
    rw [readSign]
    split
    · simp
    split <;> simp

theorem length_le_of_readExponent? {s rest : List Char} {e : Option (Bool × List Nat)}
    (h : readExponent? s = some (e, rest)) : rest.length ≤ s.length := by
  cases s with
  | nil =>
    obtain ⟨-, rfl⟩ := by simpa [readExponent?] using h
    exact Nat.le_refl _
  | cons c s =>
    rw [readExponent?] at h
    split at h
    · obtain ⟨cut, hc, he⟩ := Option.map_eq_some_iff.1 h
      obtain ⟨-, rfl⟩ := by simpa using he
      have := length_lt_of_readDigits? hc
      have := length_le_of_readSign s
      simp only [List.length_cons]
      omega
    · obtain ⟨-, rfl⟩ := by simpa using h
      exact Nat.le_refl _

theorem length_lt_of_readNumeral? {negative : Bool} {s rest : List Char} {n : Numeral}
    (h : readNumeral? negative s = some (n, rest)) : rest.length < s.length := by
  simp only [readNumeral?, Option.bind_eq_bind, Option.bind_eq_some_iff] at h
  obtain ⟨w, hw, f, hf, e, he, h⟩ := h
  obtain ⟨-, rfl⟩ := by simpa using h
  have := length_lt_of_readWhole? hw
  have := length_le_of_readFraction? hf
  have := length_le_of_readExponent? he
  omega

theorem length_le_of_stripPrefix? {pattern s rest : List Char}
    (h : stripPrefix? pattern s = some rest) : rest.length ≤ s.length := by
  rw [stripPrefix?_eq_some_iff.1 h, List.length_append]
  omega

theorem Token.length_le_of_read {c : Char} {s rest : List Char} {t : Token}
    (h : Token.read c s = some (t, rest)) : rest.length ≤ s.length := by
  rw [Token.read.eq_def] at h
  split at h
  · obtain ⟨-, rfl⟩ := by simpa using h
    exact Nat.le_refl _
  · obtain ⟨-, rfl⟩ := by simpa using h
    exact Nat.le_refl _
  · obtain ⟨-, rfl⟩ := by simpa using h
    exact Nat.le_refl _
  · obtain ⟨-, rfl⟩ := by simpa using h
    exact Nat.le_refl _
  · obtain ⟨-, rfl⟩ := by simpa using h
    exact Nat.le_refl _
  · obtain ⟨-, rfl⟩ := by simpa using h
    exact Nat.le_refl _
  · obtain ⟨cut, hc, he⟩ := Option.map_eq_some_iff.1 h
    obtain ⟨-, rfl⟩ := by simpa using he
    exact Nat.le_of_lt (length_lt_of_readGlyphs hc)
  · obtain ⟨cut, hc, he⟩ := Option.map_eq_some_iff.1 h
    obtain ⟨-, rfl⟩ := by simpa using he
    exact length_le_of_stripPrefix? hc
  · obtain ⟨cut, hc, he⟩ := Option.map_eq_some_iff.1 h
    obtain ⟨-, rfl⟩ := by simpa using he
    exact length_le_of_stripPrefix? hc
  · obtain ⟨cut, hc, he⟩ := Option.map_eq_some_iff.1 h
    obtain ⟨-, rfl⟩ := by simpa using he
    exact length_le_of_stripPrefix? hc
  · obtain ⟨cut, hc, he⟩ := Option.map_eq_some_iff.1 h
    obtain ⟨-, rfl⟩ := by simpa using he
    exact Nat.le_of_lt (length_lt_of_readNumeral? hc)
  · obtain ⟨cut, hc, he⟩ := Option.map_eq_some_iff.1 h
    obtain ⟨-, rfl⟩ := by simpa using he
    have := length_lt_of_readNumeral? hc
    simp only [List.length_cons] at this
    omega

/-- The tokens of a text. A place that starts none ends them with `bad`. -/
def tokenize : List Char → List Token
  | [] => []
  | c :: s =>
    if isSpace c then tokenize s
    else
      match _ : Token.read c s with
      | some (t, rest) => t :: tokenize rest
      | none => [.bad]
termination_by s => s.length
decreasing_by
  · simp
  · have := Token.length_le_of_read ‹Token.read c s = _›
    simp only [List.length_cons]
    omega

theorem tokenize_cons {c : Char} {s rest : List Char} {token : Token} (hc : isSpace c = false)
    (h : Token.read c s = some (token, rest)) : tokenize (c :: s) = token :: tokenize rest := by
  rw [tokenize, hc]
  split
  · contradiction
  · split
    · next heq =>
      rw [h] at heq
      cases heq
      rfl
    · next heq =>
      rw [h] at heq
      cases heq

end ApiStubs.Json
